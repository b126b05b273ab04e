import StubForge.Template.Render

/-! The templates of Scala sources. -/
namespace StubForge.ScalaTemplates
open Template

/-- The banner that every file starts with. -/
def header : List Node := [
  .text "/**\n * Generated by idlgen\n *\n",
  .text " * DO NOT EDIT UNLESS YOU ARE SURE THAT YOU KNOW WHAT YOU ARE DOING\n */\n"]

/-- The file of the constants. -/
def consts : List Node := [
  .text "package ", .value "package", .text "\n\nimport scala.collection.mutable\n",
  .insertion "imports" "", .text "\nobject Constants \x7b\n",
  .when "constants" [
    .text "  val ", .value "name", .text ": ", .value "field_type", .text " = ", .value "value",
    .text "\n"],
  .text "\x7d\n"]

/-- The file of an enum. -/
def enumeration : List Node := [
  .text "package ", .value "package", .text "\n\nsealed abstract class ", .value "EnumName",
  .text "(val value: Int, val name: String) extends Product with Serializable\n\nobject ",
  .value "EnumName", .text " \x7b\n",
  .when "values" [
    .text "  case object ", .value "name", .text " extends ", .value "EnumName", .text "(",
    .value "value", .text ", ", .value "original_name", .text ")\n"],
  .text "\n  val list: Seq[", .value "EnumName", .text "] = Seq(\n",
  .when "values" [.text "    ", .value "name", .unless "last" [.text ","], .text "\n"],
  .text "  )\n\n  def get(value: Int): Option[", .value "EnumName",
  .text "] = list.find(_.value == value)\n\n  def apply(value: Int): ", .value "EnumName",
  .text " =\n    get(value).getOrElse(throw new NoSuchElementException(s\"unknown ",
  .value "EnumName", .text " value: $value\"))\n\n  def valueOf(name: String): Option[",
  .value "EnumName", .text "] = list.find(_.name == name)\n\x7d\n"]

/-- The file of a struct or an exception. -/
def struct : List Node := [
  .text "package ", .value "package", .text "\n\nimport java.nio.ByteBuffer\n",
  .text "import org.apache.thrift.protocol.\x7bTField, TProtocol, TProtocolException, ",
  .text "TProtocolUtil, TStruct, TType\x7d\n",
  .text "import scala.collection.mutable\nimport idlgen.runtime.\x7bCodec, ThriftStruct\x7d\n",
  .insertion "imports" "", .text "\n", .insertion "struct_body" ""]

/-- What a struct declares, wherever it stands. -/
def structBody : List Node := [
  .text "object ", .value "StructName", .text " \x7b\n  val Struct: TStruct = new TStruct(",
  .value "struct_name_for_wire", .text ")\n",
  .when "fields" [
    .text "  val ", .value "field_const", .text ": TField = new TField(",
    .value "field_name_for_wire", .text ", TType.", .value "wire_tag", .text ", ", .value "id",
    .text ")\n"],
  .text "\n  def decode(_iprot: TProtocol): ", .value "StructName", .text " = \x7b\n",
  .when "fields" [
    .when "optional" [
      .text "    var ", .value "field_name", .text ": ", .value "field_type", .text " = None\n"],
    .unless "optional" [
      .text "    var ", .value "field_name", .text ": ", .value "field_type", .text " = ",
      .value "default_read_value", .text "\n"],
    .when "required" [.text "    var _got", .value "FieldName", .text " = false\n"]],
  .text "\n    _iprot.readStructBegin()\n    var _done = false\n    while (!_done) \x7b\n",
  .text "      val _field = _iprot.readFieldBegin()\n",
  .text "      if (_field.`type` == TType.STOP) \x7b\n        _done = true\n",
  .text "      \x7d else \x7b\n        _field.id match \x7b\n",
  .when "fields" [
    .text "          case ", .value "id", .text " if _field.`type` == TType.", .value "wire_tag",
    .text " =>\n",
    .when "optional" [
      .text "            ", .value "field_name", .text " = Some(", .insertion "field_codec" "",
      .text ")\n"],
    .unless "optional" [
      .text "            ", .value "field_name", .text " = ", .insertion "field_codec" "",
      .text "\n"],
    .when "required" [.text "            _got", .value "FieldName", .text " = true\n"]],
  .text "          case _ =>\n            TProtocolUtil.skip(_iprot, _field.`type`)\n",
  .text "        \x7d\n        _iprot.readFieldEnd()\n      \x7d\n    \x7d\n",
  .text "    _iprot.readStructEnd()\n\n",
  .when "fields" [
    .when "required" [
      .text "    if (!_got", .value "FieldName",
      .text ") throw new TProtocolException(\"Required field \" + ", .value "field_name_for_wire",
      .text " + \" was not found in \" + ", .value "struct_name_for_wire", .text ")\n"]],
  .text "    new ", .value "StructName", .text "(",
  .when "fields" [.value "field_name", .unless "last" [.text ", "]],
  .text ")\n  \x7d\n\x7d\n\ncase class ", .value "StructName", .text "(\n",
  .when "fields" [
    .when "optional" [
      .text "  ", .value "field_name", .text ": ", .value "field_type", .text " = None",
      .unless "last" [.text ","], .text "\n"],
    .unless "optional" [
      .text "  ", .value "field_name", .text ": ", .value "field_type",
      .when "has_default_value" [.text " = ", .value "default_value"], .unless "last" [.text ","],
      .text "\n"]],
  .text ") extends ", .when "is_exception" [.text "Exception with "],
  .text "ThriftStruct \x7b\n\n  def write(_oprot: TProtocol): Unit = \x7b\n",
  .text "    _oprot.writeStructBegin(", .value "StructName", .text ".Struct)\n",
  .when "fields" [
    .when "optional" [.text "    ", .value "field_name", .text ".foreach \x7b _value =>\n"],
    .unless "optional" [
      .when "nullable" [.text "    if (", .value "field_name", .text " ne null) \x7b\n"],
      .unless "nullable" [.text "    \x7b\n"], .text "      val _value = ", .value "field_name",
      .text "\n"],
    .text "      _oprot.writeFieldBegin(", .value "StructName", .text ".", .value "field_const",
    .text ")\n", .insertion "field_write" "", .text "      _oprot.writeFieldEnd()\n    \x7d\n"],
  .text "    _oprot.writeFieldStop()\n    _oprot.writeStructEnd()\n  \x7d\n\x7d\n"]

/-- The file of a union. -/
def union : List Node := [
  .text "package ", .value "package", .text "\n\nimport java.nio.ByteBuffer\n",
  .text "import org.apache.thrift.protocol.\x7bTField, TProtocol, TProtocolException, ",
  .text "TProtocolUtil, TStruct, TType\x7d\n",
  .text "import scala.collection.mutable\nimport idlgen.runtime.\x7bCodec, ThriftStruct\x7d\n",
  .insertion "imports" "", .text "\nsealed trait ", .value "StructName",
  .text " extends ThriftStruct\n\nobject ", .value "StructName",
  .text " \x7b\n  val Union: TStruct = new TStruct(", .value "struct_name_for_wire", .text ")\n",
  .when "fields" [
    .text "  val ", .value "field_const", .text ": TField = new TField(",
    .value "field_name_for_wire", .text ", TType.", .value "wire_tag", .text ", ", .value "id",
    .text ")\n"],
  .when "fields" [
    .text "\n  case class ", .value "FieldName", .text "(", .value "field_name", .text ": ",
    .value "primitive_field_type", .text ") extends ", .value "StructName",
    .text " \x7b\n    def write(_oprot: TProtocol): Unit = \x7b\n",
    .text "      _oprot.writeStructBegin(Union)\n      val _value = ", .value "field_name",
    .text "\n      _oprot.writeFieldBegin(", .value "field_const", .text ")\n",
    .insertion "field_write" "",
    .text "      _oprot.writeFieldEnd()\n      _oprot.writeFieldStop()\n",
    .text "      _oprot.writeStructEnd()\n    \x7d\n  \x7d\n"],
  .text "\n  def decode(_iprot: TProtocol): ", .value "StructName",
  .text " = \x7b\n    var _result: Option[", .value "StructName",
  .text "] = None\n    _iprot.readStructBegin()\n    var _done = false\n",
  .text "    while (!_done) \x7b\n      val _field = _iprot.readFieldBegin()\n",
  .text "      if (_field.`type` == TType.STOP) \x7b\n        _done = true\n",
  .text "      \x7d else \x7b\n        _field.id match \x7b\n",
  .when "fields" [
    .text "          case ", .value "id", .text " if _field.`type` == TType.", .value "wire_tag",
    .text " =>\n            _result = Some(", .value "FieldName", .text "(",
    .insertion "field_codec" "", .text "))\n"],
  .text "          case _ =>\n            TProtocolUtil.skip(_iprot, _field.`type`)\n",
  .text "        \x7d\n        _iprot.readFieldEnd()\n      \x7d\n    \x7d\n",
  .text "    _iprot.readStructEnd()\n",
  .text "    _result.getOrElse(throw new TProtocolException(\"Union \" + ",
  .value "struct_name_for_wire", .text " + \" has no field set\"))\n  \x7d\n\x7d\n"]

/-- The file of a service. -/
def service : List Node := [
  .text "package ", .value "package",
  .text "\n\nimport java.nio.ByteBuffer\nimport org.apache.thrift.TApplicationException\n",
  .text "import org.apache.thrift.protocol.\x7bTField, TProtocol, TProtocolException, ",
  .text "TProtocolUtil, TStruct, TType\x7d\n",
  .text "import scala.collection.mutable\nimport idlgen.runtime.\x7bCodec, ThriftStruct\x7d\n",
  .when "with_client" [.text "import idlgen.runtime.ClientTransport\n"],
  .when "with_server" [.text "import idlgen.runtime.ProcessorBase\n"],
  .when "with_monitoring" [.text "import idlgen.runtime.StatsReceiver\n"],
  .insertion "imports" "", .text "\ntrait ", .value "ServiceName",
  .when "parent" [.text " extends ", .value "name"], .text " \x7b\n",
  .when "functions" [
    .text "  def ", .value "name", .text "(",
    .when "args" [
      .value "field_name", .text ": ", .value "field_type", .unless "last" [.text ", "]],
    .text "): ", .value "return_type", .text "\n"],
  .text "\x7d\n\nobject ", .value "ServiceName", .text " \x7b\n",
  .when "function_structs" [.insertion "struct_body" "  ", .text "\n"],
  .when "with_client" [
    .text "  class Client(transport: ClientTransport",
    .when "with_monitoring" [.text ", stats: StatsReceiver"], .text ") extends ",
    .value "ServiceName", .text " \x7b\n",
    .when "functions" [
      .text "    def ", .value "name", .text "(",
      .when "args" [
        .value "field_name", .text ": ", .value "field_type", .unless "last" [.text ", "]],
      .text "): ", .value "return_type", .text " = \x7b\n",
      .when "with_monitoring" [
        .text "      stats.counter(", .value "name_for_wire", .text ").incr()\n"],
      .when "is_oneway" [
        .text "      transport.sendOneway(", .value "name_for_wire", .text ", ",
        .value "args_struct", .text "(", .value "arg_names", .text "))\n"],
      .unless "is_oneway" [
        .text "      val _result = transport.call(", .value "name_for_wire", .text ", ",
        .value "args_struct", .text "(", .value "arg_names", .text "), ", .value "result_struct",
        .text ".decode)\n",
        .when "throws" [
          .text "      _result.", .value "field_name", .text ".foreach(e => throw e)\n"],
        .unless "is_void" [
          .text "      _result.success.getOrElse(\n",
          .text "        throw new TApplicationException(TApplicationException.MISSING_RESULT, ",
          .value "name_for_wire", .text " + \" failed: unknown result\")\n      )\n"]],
      .text "    \x7d\n"],
    .text "  \x7d\n"],
  .when "with_server" [
    .text "\n  class Processor(iface: ", .value "ServiceName",
    .when "with_monitoring" [.text ", stats: StatsReceiver"],
    .text ") extends ProcessorBase \x7b\n",
    .when "functions" [
      .text "    register(", .value "name_for_wire", .text ", oneway = ", .value "is_oneway",
      .text ") \x7b _iprot =>\n",
      .when "with_monitoring" [
        .text "      stats.counter(", .value "name_for_wire", .text ").incr()\n"],
      .text "      val _args = ", .value "args_struct", .text ".decode(_iprot)\n",
      .when "is_oneway" [
        .text "      iface.", .value "name", .text "(",
        .when "args" [.text "_args.", .value "field_name", .unless "last" [.text ", "]],
        .text ")\n      None\n"],
      .unless "is_oneway" [
        .text "      try \x7b\n",
        .when "is_void" [
          .text "        iface.", .value "name", .text "(",
          .when "args" [.text "_args.", .value "field_name", .unless "last" [.text ", "]],
          .text ")\n        Some(", .value "result_struct", .text "())\n"],
        .unless "is_void" [
          .text "        Some(", .value "result_struct", .text "(success = Some(iface.",
          .value "name", .text "(",
          .when "args" [.text "_args.", .value "field_name", .unless "last" [.text ", "]],
          .text "))))\n"],
        .when "has_throws" [
          .text "      \x7d catch \x7b\n",
          .when "throws" [
            .text "        case e: ", .value "field_type", .text " => Some(",
            .value "result_struct", .text "(", .value "field_name", .text " = Some(e)))\n"]],
        .text "      \x7d\n"],
      .text "    \x7d\n"],
    .text "  \x7d\n"],
  .text "\x7d\n"]

/-- One import for each included document. -/
def imports : List Node := [
  .when "imports" [
    .text "import ", .value "parent_package", .text ".\x7b ", .value "sub_package", .text " => ",
    .value "alias", .text " \x7d\n"]]

/-- The expression that reads a field. -/
def fieldCodec : List Node := [
  .when "read_method" [.text "_iprot.", .value "read_method", .text "()"],
  .when "is_enum" [.value "primitive_field_type", .text "(_iprot.readI32())"],
  .when "is_struct" [.value "primitive_field_type", .text ".decode(_iprot)"],
  .when "is_container" [.text "Codec.read[", .value "primitive_field_type", .text "](_iprot)"]]

/-- The statement that writes a field. -/
def fieldWrite : List Node := [
  .when "read_method" [.text "      _oprot.", .value "write_method", .text "(_value)\n"],
  .when "is_enum" [.text "      _oprot.writeI32(_value.value)\n"],
  .when "is_struct" [.text "      _value.write(_oprot)\n"],
  .when "is_container" [
    .text "      Codec.write[", .value "primitive_field_type", .text "](_oprot, _value)\n"]]

end StubForge.ScalaTemplates

namespace StubForge

/-- The Scala templates under the names by which they insert one another. -/
def scalaTemplates : Template.TemplateSet := ⟨"scala", [
  ("header", ScalaTemplates.header),
  ("consts", ScalaTemplates.consts),
  ("enum", ScalaTemplates.enumeration),
  ("struct", ScalaTemplates.struct),
  ("struct_body", ScalaTemplates.structBody),
  ("union", ScalaTemplates.union),
  ("service", ScalaTemplates.service),
  ("imports", ScalaTemplates.imports),
  ("field_codec", ScalaTemplates.fieldCodec),
  ("field_write", ScalaTemplates.fieldWrite)]⟩

end StubForge
