/-! Sections of a source that are generated on demand. -/
namespace StubForge

/-- Client stubs, dispatch on the server side, and hooks for monitoring. -/
inductive ServiceOption
  | client
  | server
  | monitoring
  deriving DecidableEq, Repr

namespace ServiceOption

def all : List ServiceOption := [client, server, monitoring]

/-- The name in data. -/
def name : ServiceOption → String
  | client => "with-client"
  | server => "with-server"
  | monitoring => "with-monitoring"

def ofName? (s : String) : Option ServiceOption := all.find? (·.name = s)

/-- The key under which templates find the option. -/
def flagName : ServiceOption → String
  | client => "with_client"
  | server => "with_server"
  | monitoring => "with_monitoring"

@[simp] theorem ofName?_name (o : ServiceOption) : ofName? o.name = some o := by
  cases o <;> decide

end ServiceOption

/-- A set of options. -/
structure ServiceOptions where
  client : Bool
  server : Bool
  monitoring : Bool
  deriving DecidableEq, Repr

namespace ServiceOptions

def none : ServiceOptions := ⟨false, false, false⟩

def has (s : ServiceOptions) : ServiceOption → Bool
  | .client => s.client
  | .server => s.server
  | .monitoring => s.monitoring

def add (s : ServiceOptions) : ServiceOption → ServiceOptions
  | .client => { s with client := true }
  | .server => { s with server := true }
  | .monitoring => { s with monitoring := true }

def ofList (options : List ServiceOption) : ServiceOptions := options.foldl add none

/-- The members in the fixed order of the options. -/
def toList (s : ServiceOptions) : List ServiceOption := ServiceOption.all.filter s.has

@[simp] theorem ofList_toList (s : ServiceOptions) : ofList s.toList = s := by
  obtain ⟨c, s, m⟩ := s
  cases c <;> cases s <;> cases m <;> rfl

end ServiceOptions
end StubForge
