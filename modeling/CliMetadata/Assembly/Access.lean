import CliMetadata.Keyword

namespace CliMetadata

/-- From where a definition can be used: its type, the types derived from that, its assembly. -/
inductive Accessibility where
  | anywhere | owner | family | assembly | familyOrAssembly | familyAndAssembly
  deriving DecidableEq, Inhabited

instance : Keyword Accessibility where
  all := [.anywhere, .owner, .family, .assembly, .familyOrAssembly, .familyAndAssembly]
  text
    | .anywhere => "public"
    | .owner => "private"
    | .family => "protected"
    | .assembly => "internal"
    | .familyOrAssembly => "protected_internal"
    | .familyAndAssembly => "private_protected"

namespace Accessibility

/-- The accessibility in the low three bits of a method's or field's flags. -/
def ofMemberFlags (flags : Nat) : Accessibility :=
  match flags % 8 with
  | 2 => .familyAndAssembly
  | 3 => .assembly
  | 4 => .family
  | 5 => .familyOrAssembly
  | 6 => .anywhere
  | _ => .owner

/-- The accessibility in the low three bits of a type's flags. -/
def ofTypeFlags (flags : Nat) : Accessibility :=
  match flags % 8 with
  | 1 | 2 => .anywhere
  | 3 => .owner
  | 4 => .family
  | 6 => .familyAndAssembly
  | 7 => .familyOrAssembly
  | _ => .assembly

def rank : Accessibility → Nat
  | .owner => 0
  | .familyAndAssembly => 1
  | .assembly => 2
  | .family => 3
  | .familyOrAssembly => 4
  | .anywhere => 5

end Accessibility

namespace MethodFlags

def access (flags : Nat) : Nat := flags &&& 0x0007

/-- The known bits above the accessibility. -/
def modifiers (flags : Nat) : Nat := flags &&& 0x3FF0

end MethodFlags

end CliMetadata
