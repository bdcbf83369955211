import CliMetadata.Proofs.Assembly.Numbered
import CliMetadata.Proofs.Loading.Passes

namespace CliMetadata

namespace Loading

open Draft

variable {m : Metadata} {d loaded : Draft} {owner : Token} {rid : Nat}

theorem reachable_addField (hd : d.Reachable) (h : addField m owner rid d = .ok loaded) :
    loaded.Reachable := by
  obtain ⟨_, _, name, _, _, _, _, rfl⟩ := addField_ok h
  exact .edit (.addField owner name _ _) hd

theorem reachable_putMethod (hd : d.Reachable) (owner : Token) (method : MethodRow)
    (names : List String) : (putMethod d owner method names).Reachable := by
  refine .edit (.setParamNames _ names) ?_
  have hadded := Reachable.edit (.addMethod owner method.name method.flags method.signature) hd
  have hflags := Reachable.edit
    (.setImplFlags (nextToken .methodDef d.rows.methods.size) method.implFlags) hadded
  split
  · next code _ => exact .edit (.setBody _ code) hflags
  · exact hflags

theorem reachable_addMethod {methods : Array MethodRow} (hd : d.Reachable)
    (h : addMethod m methods owner rid d = .ok loaded) : loaded.Reachable := by
  obtain ⟨method, names, _, _, _, rfl⟩ := addMethod_ok h
  exact reachable_putMethod hd owner method names

theorem reachable_addProperty (hd : d.Reachable) (h : addProperty m owner rid d = .ok loaded) :
    loaded.Reachable := by
  obtain ⟨_, _, name, _, _, _, _, rfl⟩ := addProperty_ok h
  exact .edit (.addProperty owner name _ _) hd

theorem reachable_addEvent (hd : d.Reachable) (h : addEvent m owner rid d = .ok loaded) :
    loaded.Reachable := by
  obtain ⟨_, name, _, _, _, rfl⟩ := addEvent_ok h
  exact .edit (.addEvent owner name _ _) hd

theorem reachable_addMembers {types : Array Row} {methods : Array MethodRow} (hd : d.Reachable)
    (h : addMembers m types methods d = .ok loaded) : loaded.Reachable := by
  refine addMembers_run (P := fun _ ↦ Reachable) (fun rid u v w _ _ _ _ hu _ _ hv hw ↦ ?_) hd h
  have hv : v.Reachable := forRows_invariant (fun _ _ _ ↦ reachable_addField) hu hv
  exact forRows_invariant (fun _ _ _ ↦ reachable_addMethod) hv hw

namespace Stages

variable {a : Assembly} (s : Stages m a)

theorem reachable_headed : s.headed.Reachable := by
  have hstart : s.start.Reachable := .edit (.setVersion _) (.edit (.setVersionId _)
    (.edit (.setModuleName _) (.new s.name)))
  have hreferring : s.referring.Reachable := addReferences_invariant
    (fun _ name version ↦ .edit (.addAssemblyRef name version))
    (fun _ scope ns name ↦ .edit (.addTypeRef scope ns name)) hstart s.addReferences_eq
  have htyped : s.typed.Reachable := addTypes_invariant
    (fun _ ns name flags base ↦ .edit (.addType ns name flags base)) hreferring s.addTypes_eq
  have hpeopled : s.peopled.Reachable := reachable_addMembers htyped s.addMembers_eq
  have hrelated : s.related.Reachable := addRelations_invariant
    (fun _ type interface ↦ .edit (.addInterface type interface))
    (fun _ inner outer ↦ .edit (.nest inner outer))
    (fun _ owner name ↦ .edit (.addGenericParam owner name)) hpeopled s.addRelations_eq
  have hmapped : s.mapped.Reachable := addPropertiesAndEvents_invariant
    (fun _ _ _ _ ↦ reachable_addProperty) (fun _ _ _ _ ↦ reachable_addEvent)
    (fun _ owner method flags ↦ .edit (.setSemantics owner method flags)) hrelated
    s.addPropertiesAndEvents_eq
  have hspecified : s.specified.Reachable := addSpecs_invariant
    (fun _ parent name signature ↦ .edit (.addMemberRef parent name signature))
    (fun _ signature ↦ .edit (.addTypeSpec signature))
    (fun _ method args ↦ .edit (.addMethodSpec method args)) hmapped s.addSpecs_eq
  exact s.headed_invariant (fun _ heap ↦ .edit (.setUserStrings heap))
    (fun _ t ↦ .edit (.setEntryPoint t)) hspecified

end Stages

theorem built_assembly {a : Assembly} (h : assembly m = .ok a) : a.Built := by
  obtain ⟨s⟩ := nonempty_stages h
  exact ⟨s.headed, s.reachable_headed, s.build_eq⟩

end Loading

theorem Assembly.ofImage_eq {data : Bytes} {image : Image} {m : Metadata}
    (himage : Image.read data = .ok image) (hm : Metadata.ofImage image = .ok m) :
    ofImage data = Loading.assembly m := by
  rw [ofImage, himage]
  exact congrArg (· >>= Loading.assembly) hm

/-- What is loaded from an image could also have been built. -/
theorem Assembly.built_of_ofImage {data : Bytes} {a : Assembly} (h : ofImage data = .ok a) :
    a.Built := by
  obtain ⟨image, _, h⟩ := Attempt.except_bind_eq_ok_iff.1 h
  obtain ⟨metadata, _, h⟩ := Attempt.except_bind_eq_ok_iff.1 h
  exact Loading.built_assembly h

/-- Assemblies as they come about: built row by row or loaded from an image. -/
def Assembly.Produced (a : Assembly) : Prop := a.Built ∨ ∃ data, ofImage data = .ok a

theorem Assembly.Produced.rowsNumbered {a : Assembly} (h : a.Produced) : a.RowsNumbered := by
  obtain h | ⟨data, h⟩ := h
  · exact h.rowsNumbered
  · exact (built_of_ofImage h).rowsNumbered

end CliMetadata
