import StubForge.Fault
import StubForge.Schema.Reading

/-! Documents from the content of a file. -/
namespace StubForge.Document

def ofText (path text : String) : Except Fault Document :=
  match read? text with
  | some doc => .ok doc
  | none => .error (.invalidDocument path "the text is not a document")

/-- The bytes have to be text in UTF-8. -/
def ofBytes (path : String) (bytes : ByteArray) : Except Fault Document :=
  match String.fromUTF8? bytes with
  | some text => ofText path text
  | none => .error (.io path "stream did not contain valid UTF-8")

end StubForge.Document
