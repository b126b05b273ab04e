import StubForge.Template.Render

/-! The templates of Java sources. -/
namespace StubForge.JavaTemplates
open Template

/-- The banner that every file starts with. -/
def header : List Node := [
  .text "/**\n * Generated by idlgen\n *\n",
  .text " * DO NOT EDIT UNLESS YOU ARE SURE THAT YOU KNOW WHAT YOU ARE DOING\n */\n"]

/-- The file of the constants. -/
def consts : List Node := [
  .text "package ", .value "package",
  .text ";\n\nimport java.nio.ByteBuffer;\nimport java.util.*;\n", .insertion "imports" "",
  .text "\npublic final class Constants \x7b\n  private Constants() \x7b\n  \x7d\n\n",
  .when "constants" [
    .text "  public static final ", .value "field_type", .text " ", .value "name", .text " = ",
    .value "value", .text ";\n"],
  .text "\x7d\n"]

/-- The file of an enum. -/
def enumeration : List Node := [
  .text "package ", .value "package", .text ";\n\npublic enum ", .value "EnumName",
  .text " \x7b\n",
  .when "values" [
    .text "  ", .value "name", .text "(", .value "value", .text ")", .when "last" [.text ";"],
    .unless "last" [.text ","], .text "\n"],
  .unless "values" [.text "  ;\n"], .text "\n  private final int value;\n\n  ", .value "EnumName",
  .text "(int value) \x7b\n    this.value = value;\n  \x7d\n\n  public int getValue() \x7b\n",
  .text "    return value;\n  \x7d\n\n  public static ", .value "EnumName",
  .text " findByValue(int value) \x7b\n    switch (value) \x7b\n",
  .when "values" [
    .text "      case ", .value "value", .text ":\n        return ", .value "name", .text ";\n"],
  .text "      default:\n        return null;\n    \x7d\n  \x7d\n\n  public static ",
  .value "EnumName", .text " findByName(String name) \x7b\n    switch (name) \x7b\n",
  .when "values" [
    .text "      case ", .value "original_name", .text ":\n        return ", .value "name",
    .text ";\n"],
  .text "      default:\n        return null;\n    \x7d\n  \x7d\n\x7d\n"]

/-- The file of a struct or an exception. -/
def struct : List Node := [
  .text "package ", .value "package",
  .text ";\n\nimport java.nio.ByteBuffer;\nimport java.util.*;\n",
  .text "import org.apache.thrift.TException;\nimport org.apache.thrift.protocol.*;\n",
  .text "import idlgen.runtime.Codec;\nimport idlgen.runtime.ThriftStruct;\n",
  .insertion "imports" "", .text "\npublic class ", .value "StructName", .text " ",
  .when "is_exception" [.text "extends Exception "], .text "implements ThriftStruct \x7b\n",
  .insertion "struct_body" "", .text "\x7d\n"]

/-- What a struct declares, wherever it stands. -/
def structBody : List Node := [
  .text "  public static final TStruct STRUCT_DESC = new TStruct(", .value "struct_name_for_wire",
  .text ");\n",
  .when "fields" [
    .text "  public static final TField ", .value "field_const", .text " = new TField(",
    .value "field_name_for_wire", .text ", TType.", .value "wire_tag", .text ", (short) ",
    .value "id", .text ");\n"],
  .text "\n", .insertion "fields" "", .text "\n  public ", .value "StructName",
  .text "() \x7b\n  \x7d\n",
  .when "has_fields" [
    .text "\n  public ", .value "StructName", .text "(",
    .when "fields" [
      .value "field_type", .text " ", .value "field_name", .unless "last" [.text ", "]],
    .text ") \x7b\n",
    .when "fields" [
      .text "    this.", .value "field_name", .text " = ", .value "field_name", .text ";\n"],
    .text "  \x7d\n"],
  .when "fields" [
    .text "\n  public ", .value "field_type", .text " ", .value "getter",
    .text "() \x7b\n    return this.", .value "field_name", .text ";\n  \x7d\n\n  public ",
    .value "StructName", .text " set", .value "FieldName", .text "(", .value "field_type",
    .text " ", .value "field_name", .text ") \x7b\n    this.", .value "field_name", .text " = ",
    .value "field_name", .text ";\n    return this;\n  \x7d\n"],
  .text "\n  public static ", .value "StructName",
  .text " decode(TProtocol iprot) throws TException \x7b\n    ", .value "StructName",
  .text " result = new ", .value "StructName",
  .text "();\n    iprot.readStructBegin();\n    while (true) \x7b\n",
  .text "      TField field = iprot.readFieldBegin();\n",
  .text "      if (field.type == TType.STOP) \x7b\n        break;\n      \x7d\n",
  .text "      switch (field.id) \x7b\n",
  .when "fields" [
    .text "        case ", .value "id", .text ":\n          if (field.type == TType.",
    .value "wire_tag", .text ") \x7b\n",
    .when "optional" [
      .text "            result.", .value "field_name", .text " = Optional.of(",
      .insertion "field_read" "", .text ");\n"],
    .unless "optional" [
      .text "            result.", .value "field_name", .text " = ", .insertion "field_read" "",
      .text ";\n"],
    .text "          \x7d else \x7b\n            TProtocolUtil.skip(iprot, field.type);\n",
    .text "          \x7d\n          break;\n"],
  .text "        default:\n          TProtocolUtil.skip(iprot, field.type);\n      \x7d\n",
  .text "      iprot.readFieldEnd();\n    \x7d\n    iprot.readStructEnd();\n",
  .when "fields" [
    .when "required" [
      .when "nullable" [
        .text "    if (result.", .value "field_name",
        .text " == null) \x7b\n      throw new TProtocolException(\"Required field \" + ",
        .value "field_name_for_wire", .text " + \" was not found in \" + ",
        .value "struct_name_for_wire", .text ");\n    \x7d\n"]]],
  .text "    return result;\n  \x7d\n\n",
  .text "  public void write(TProtocol oprot) throws TException \x7b\n",
  .text "    oprot.writeStructBegin(STRUCT_DESC);\n",
  .when "fields" [
    .when "optional" [
      .text "    if (this.", .value "field_name", .text ".isPresent()) \x7b\n      ",
      .value "boxed_field_type", .text " value = this.", .value "field_name", .text ".get();\n"],
    .unless "optional" [
      .when "nullable" [.text "    if (this.", .value "field_name", .text " != null) \x7b\n"],
      .unless "nullable" [.text "    \x7b\n"], .text "      ", .value "primitive_field_type",
      .text " value = this.", .value "field_name", .text ";\n"],
    .text "      oprot.writeFieldBegin(", .value "field_const", .text ");\n",
    .insertion "field_write" "", .text "      oprot.writeFieldEnd();\n    \x7d\n"],
  .text "    oprot.writeFieldStop();\n    oprot.writeStructEnd();\n  \x7d\n"]

/-- The file of a union. -/
def union : List Node := [
  .text "package ", .value "package",
  .text ";\n\nimport java.nio.ByteBuffer;\nimport java.util.*;\n",
  .text "import org.apache.thrift.TException;\nimport org.apache.thrift.protocol.*;\n",
  .text "import idlgen.runtime.Codec;\nimport idlgen.runtime.ThriftStruct;\n",
  .insertion "imports" "", .text "\npublic final class ", .value "StructName",
  .text " implements ThriftStruct \x7b\n  public static final TStruct UNION_DESC = new TStruct(",
  .value "struct_name_for_wire", .text ");\n",
  .when "fields" [
    .text "  public static final TField ", .value "field_const", .text " = new TField(",
    .value "field_name_for_wire", .text ", TType.", .value "wire_tag", .text ", (short) ",
    .value "id", .text ");\n"],
  .text "\n  private final short setField;\n  private final Object value;\n\n  private ",
  .value "StructName",
  .text "(short setField, Object value) \x7b\n    this.setField = setField;\n",
  .text "    this.value = value;\n  \x7d\n",
  .when "fields" [
    .text "\n  public static ", .value "StructName", .text " ", .value "field_name", .text "(",
    .value "boxed_field_type", .text " value) \x7b\n    return new ", .value "StructName",
    .text "((short) ", .value "id", .text ", value);\n  \x7d\n\n  public boolean isSet",
    .value "FieldName", .text "() \x7b\n    return setField == ", .value "id",
    .text ";\n  \x7d\n\n  public ", .value "boxed_field_type", .text " ", .value "getter",
    .text "() \x7b\n    if (setField != ", .value "id",
    .text ") \x7b\n      throw new IllegalStateException(\"Union \" + ",
    .value "struct_name_for_wire", .text " + \" does not hold \" + ",
    .value "field_name_for_wire", .text ");\n    \x7d\n    return (", .value "boxed_field_type",
    .text ") value;\n  \x7d\n"],
  .text "\n  public static ", .value "StructName",
  .text " decode(TProtocol iprot) throws TException \x7b\n    ", .value "StructName",
  .text " result = null;\n    iprot.readStructBegin();\n    while (true) \x7b\n",
  .text "      TField field = iprot.readFieldBegin();\n",
  .text "      if (field.type == TType.STOP) \x7b\n        break;\n      \x7d\n",
  .text "      switch (field.id) \x7b\n",
  .when "fields" [
    .text "        case ", .value "id", .text ":\n          if (field.type == TType.",
    .value "wire_tag", .text ") \x7b\n            result = new ", .value "StructName",
    .text "((short) ", .value "id", .text ", ", .insertion "field_read" "",
    .text ");\n          \x7d else \x7b\n            TProtocolUtil.skip(iprot, field.type);\n",
    .text "          \x7d\n          break;\n"],
  .text "        default:\n          TProtocolUtil.skip(iprot, field.type);\n      \x7d\n",
  .text "      iprot.readFieldEnd();\n    \x7d\n    iprot.readStructEnd();\n",
  .text "    if (result == null) \x7b\n      throw new TProtocolException(\"Union \" + ",
  .value "struct_name_for_wire",
  .text " + \" has no field set\");\n    \x7d\n    return result;\n  \x7d\n\n",
  .text "  public void write(TProtocol oprot) throws TException \x7b\n",
  .text "    oprot.writeStructBegin(UNION_DESC);\n    switch (setField) \x7b\n",
  .when "fields" [
    .text "      case ", .value "id", .text ": \x7b\n        ", .value "boxed_field_type",
    .text " value = (", .value "boxed_field_type",
    .text ") this.value;\n        oprot.writeFieldBegin(", .value "field_const", .text ");\n",
    .insertion "field_write" "  ",
    .text "        oprot.writeFieldEnd();\n        break;\n      \x7d\n"],
  .text "      default:\n        throw new TProtocolException(\"Union \" + ",
  .value "struct_name_for_wire",
  .text " + \" has no field set\");\n    \x7d\n    oprot.writeFieldStop();\n",
  .text "    oprot.writeStructEnd();\n  \x7d\n\x7d\n"]

/-- The file of a service. -/
def service : List Node := [
  .text "package ", .value "package",
  .text ";\n\nimport java.nio.ByteBuffer;\nimport java.util.*;\n",
  .text "import org.apache.thrift.TApplicationException;\nimport org.apache.thrift.TException;\n",
  .text "import org.apache.thrift.protocol.*;\nimport idlgen.runtime.Codec;\n",
  .text "import idlgen.runtime.ThriftStruct;\n",
  .when "with_client" [.text "import idlgen.runtime.ClientTransport;\n"],
  .when "with_server" [.text "import idlgen.runtime.ProcessorBase;\n"],
  .when "with_monitoring" [.text "import idlgen.runtime.StatsReceiver;\n"],
  .insertion "imports" "", .text "\npublic final class ", .value "ServiceName",
  .text " \x7b\n  private ", .value "ServiceName",
  .text "() \x7b\n  \x7d\n\n  public interface Iface",
  .when "parent" [.text " extends ", .value "name", .text ".Iface"], .text " \x7b\n",
  .when "functions" [
    .text "    ", .value "return_type", .text " ", .value "name", .text "(",
    .when "args" [
      .value "field_type", .text " ", .value "field_name", .unless "last" [.text ", "]],
    .text ") throws ", .when "throws" [.value "field_type", .text ", "], .text "TException;\n"],
  .text "  \x7d\n",
  .when "function_structs" [
    .text "\n  public static class ", .value "StructName",
    .text " implements ThriftStruct \x7b\n", .insertion "struct_body" "  ", .text "  \x7d\n"],
  .when "with_client" [
    .text "\n  public static class Client implements Iface \x7b\n",
    .text "    private final ClientTransport transport;\n",
    .when "with_monitoring" [.text "    private final StatsReceiver stats;\n"],
    .text "\n    public Client(ClientTransport transport",
    .when "with_monitoring" [.text ", StatsReceiver stats"],
    .text ") \x7b\n      this.transport = transport;\n",
    .when "with_monitoring" [.text "      this.stats = stats;\n"], .text "    \x7d\n",
    .when "functions" [
      .text "\n    @Override\n    public ", .value "return_type", .text " ", .value "name",
      .text "(",
      .when "args" [
        .value "field_type", .text " ", .value "field_name", .unless "last" [.text ", "]],
      .text ") throws ", .when "throws" [.value "field_type", .text ", "],
      .text "TException \x7b\n",
      .when "with_monitoring" [
        .text "      stats.counter(", .value "name_for_wire", .text ").incr();\n"],
      .when "is_oneway" [
        .text "      transport.sendOneway(", .value "name_for_wire", .text ", new ",
        .value "args_struct", .text "(", .value "arg_names", .text "));\n"],
      .unless "is_oneway" [
        .text "      ", .value "result_struct", .text " result = transport.call(",
        .value "name_for_wire", .text ", new ", .value "args_struct", .text "(",
        .value "arg_names", .text "), ", .value "result_struct", .text "::decode);\n",
        .when "throws" [
          .text "      if (result.get", .value "FieldName",
          .text "().isPresent()) \x7b\n        throw result.get", .value "FieldName",
          .text "().get();\n      \x7d\n"],
        .unless "is_void" [
          .text "      return result.getSuccess().orElseThrow(() ->\n",
          .text "          new TApplicationException(TApplicationException.MISSING_RESULT, ",
          .value "name_for_wire", .text " + \" failed: unknown result\"));\n"]],
      .text "    \x7d\n"],
    .text "  \x7d\n"],
  .when "with_server" [
    .text "\n  public static class Processor extends ProcessorBase \x7b\n",
    .text "    public Processor(Iface iface",
    .when "with_monitoring" [.text ", StatsReceiver stats"], .text ") \x7b\n",
    .when "functions" [
      .text "      register(", .value "name_for_wire", .text ", ", .value "is_oneway",
      .text ", iprot -> \x7b\n",
      .when "with_monitoring" [
        .text "        stats.counter(", .value "name_for_wire", .text ").incr();\n"],
      .text "        ", .value "args_struct", .text " args = ", .value "args_struct",
      .text ".decode(iprot);\n",
      .when "is_oneway" [
        .text "        iface.", .value "name", .text "(",
        .when "args" [.text "args.", .value "getter", .text "()", .unless "last" [.text ", "]],
        .text ");\n        return null;\n"],
      .unless "is_oneway" [
        .text "        ", .value "result_struct", .text " result = new ", .value "result_struct",
        .text "();\n", .when "has_throws" [.text "        try \x7b\n"],
        .when "is_void" [
          .text "        iface.", .value "name", .text "(",
          .when "args" [
            .text "args.", .value "getter", .text "()", .unless "last" [.text ", "]],
          .text ");\n"],
        .unless "is_void" [
          .text "        result.setSuccess(Optional.of(iface.", .value "name", .text "(",
          .when "args" [
            .text "args.", .value "getter", .text "()", .unless "last" [.text ", "]],
          .text ")));\n"],
        .when "has_throws" [
          .when "throws" [
            .text "        \x7d catch (", .value "field_type",
            .text " e) \x7b\n          result.set", .value "FieldName",
            .text "(Optional.of(e));\n"],
          .text "        \x7d\n"],
        .text "        return result;\n"],
      .text "      \x7d);\n"],
    .text "    \x7d\n  \x7d\n"],
  .text "\x7d\n"]

/-- One import for each included document. -/
def imports : List Node := [
  .when "imports" [.text "import ", .value "namespace", .text ".*;\n"]]

/-- The private fields of a class with their first values. -/
def fields : List Node := [
  .when "fields" [
    .when "optional" [
      .text "  private ", .value "field_type", .text " ", .value "field_name",
      .text " = Optional.empty();\n"],
    .unless "optional" [
      .when "has_default_value" [
        .text "  private ", .value "field_type", .text " ", .value "field_name", .text " = ",
        .value "default_value", .text ";\n"],
      .unless "has_default_value" [
        .text "  private ", .value "field_type", .text " ", .value "field_name", .text ";\n"]]]]

/-- The expression that reads a field. -/
def fieldRead : List Node := [
  .when "read_method" [.text "iprot.", .value "read_method", .text "()"],
  .when "is_enum" [.value "primitive_field_type", .text ".findByValue(iprot.readI32())"],
  .when "is_struct" [.value "primitive_field_type", .text ".decode(iprot)"],
  .when "is_container" [.text "Codec.<", .value "boxed_field_type", .text ">read(iprot)"]]

/-- The statement that writes a field. -/
def fieldWrite : List Node := [
  .when "read_method" [.text "      oprot.", .value "write_method", .text "(value);\n"],
  .when "is_enum" [.text "      oprot.writeI32(value.getValue());\n"],
  .when "is_struct" [.text "      value.write(oprot);\n"],
  .when "is_container" [.text "      Codec.write(oprot, value);\n"]]

end StubForge.JavaTemplates

namespace StubForge

/-- The Java templates under the names by which they insert one another. -/
def javaTemplates : Template.TemplateSet := ⟨"java", [
  ("header", JavaTemplates.header),
  ("consts", JavaTemplates.consts),
  ("enum", JavaTemplates.enumeration),
  ("struct", JavaTemplates.struct),
  ("struct_body", JavaTemplates.structBody),
  ("union", JavaTemplates.union),
  ("service", JavaTemplates.service),
  ("imports", JavaTemplates.imports),
  ("fields", JavaTemplates.fields),
  ("field_read", JavaTemplates.fieldRead),
  ("field_write", JavaTemplates.fieldWrite)]⟩

end StubForge
