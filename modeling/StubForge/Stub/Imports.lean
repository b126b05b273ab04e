import StubForge.Stub.Naming
import StubForge.Template.Dictionary

/-! The imports of the included documents. -/
namespace StubForge

/-- The package above all others. -/
def rootPackage : String := "_root_"

namespace Naming

/-- An included document is imported under its local name between underscores, apart from the names
of the document itself. -/
def importEntry (n : Naming) (i : Inclusion) : Dictionary :=
  let package := i.document.packageFor n.dialect
  let (above, last) := match package.qualifier with
    | some scope => (n.identifier scope, n.identifier package.leaf)
    | none => (rootPackage, n.identifier package)
  [("parent_package", .code above), ("sub_package", .code last),
    ("namespace", .code (n.identifier package)),
    ("alias", .code (n.identifier ((i.localName.prepend "_").append "_")))]

def imports (n : Naming) (inclusions : List Inclusion) : List Dictionary :=
  inclusions.map n.importEntry

end Naming
end StubForge
