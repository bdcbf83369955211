import CliMetadata.Assembly.Draft

namespace CliMetadata

namespace Draft

inductive Edit where
  | setVersionId (mvid : Guid)
  | setVersion (version : Version)
  | setModuleName (name : String)
  | setEntryPoint (method : Token)
  | setUserStrings (heap : UserStrings)
  | addAssemblyRef (name : String) (version : Version)
  | addTypeRef (scope : Token) (ns name : String)
  | addType (ns name : String) (flags : Nat) (base : Option Token)
  | nest (inner outer : Token)
  | addInterface (type interface : Token)
  | addGenericParam (owner : Token) (name : String)
  | addMethod (type : Token) (name : String) (flags : Nat) (signature : MethodSig)
  | setImplFlags (method : Token) (flags : Nat)
  | setBody (method : Token) (code : Bytes)
  | setParamNames (method : Token) (names : List String)
  | addField (type : Token) (name : String) (flags : Nat) (signature : TypeSig)
  | addProperty (type : Token) (name : String) (flags : Nat) (signature : PropertySig)
  | addEvent (type : Token) (name : String) (flags : Nat) (eventType : Option Token)
  | setSemantics (owner method : Token) (flags : Nat)
  | addMemberRef (parent : Token) (name : String) (signature : ReferenceSig)
  | addTypeSpec (signature : TypeSig)
  | addMethodSpec (method : Token) (args : List TypeSig)
  | addUserString (text : String)

def Edit.apply (d : Draft) : Edit → Draft
  | setVersionId mvid => d.setVersionId mvid
  | setVersion version => d.setVersion version
  | setModuleName name => d.setModuleName name
  | setEntryPoint method => d.setEntryPoint method
  | setUserStrings heap => d.setUserStrings heap
  | addAssemblyRef name version => (d.addAssemblyRef name version).2
  | addTypeRef scope ns name => (d.addTypeRef scope ns name).2
  | addType ns name flags base => (d.addType ns name flags base).2
  | nest inner outer => d.nest inner outer
  | addInterface type interface => d.addInterface type interface
  | addGenericParam owner name => d.addGenericParam owner name
  | addMethod type name flags signature => (d.addMethod type name flags signature).2
  | setImplFlags method flags => d.setImplFlags method flags
  | setBody method code => d.setBody method code
  | setParamNames method names => d.setParamNames method names
  | addField type name flags signature => (d.addField type name flags signature).2
  | addProperty type name flags signature => (d.addProperty type name flags signature).2
  | addEvent type name flags eventType => (d.addEvent type name flags eventType).2
  | setSemantics owner method flags => d.setSemantics owner method flags
  | addMemberRef parent name signature => (d.addMemberRef parent name signature).2
  | addTypeSpec signature => (d.addTypeSpec signature).2
  | addMethodSpec method args => (d.addMethodSpec method args).2
  | addUserString text => (d.addUserString text).2

/-- A draft that was started empty or from a built assembly, and changed from there. -/
inductive Reachable : Draft → Prop
  | new (name : String) : Reachable (.new name)
  | again {d : Draft} : Reachable d → Reachable (.ofAssembly d.build)
  | edit {d : Draft} (e : Edit) : Reachable d → Reachable (e.apply d)

theorem Reachable.edits {d : Draft} (h : Reachable d) (edits : List Edit) :
    Reachable (edits.foldl Edit.apply d) := by
  induction edits generalizing d with
  | nil => exact h
  | cons e edits ih => exact ih (.edit e h)

end Draft

namespace Assembly

/-- An assembly that comes from a draft. -/
def Built (a : Assembly) : Prop := ∃ d : Draft, d.Reachable ∧ d.build = a

def callingItself : Assembly :=
  ([Draft.Edit.addType "App" "Program" 0 none,
    .addMethod ⟨0x02000001⟩ "Main" 0x10 { result := { base := .void } },
    .setBody ⟨0x06000001⟩ ⟨[0x28, 1, 0, 0, 6, 0x2A]⟩].foldl Draft.Edit.apply (.new "app")).build

theorem built_callingItself : callingItself.Built := ⟨_, .edits (.new "app") _, rfl⟩

end Assembly

end CliMetadata
