import CliMetadata.Assembly.Loading

namespace CliMetadata

/-- An error that data is to blame for. -/
inductive Error.IsDefect : Error → Prop
  | malformed (fault : Fault) : IsDefect (.malformed fault)
  | outOfBounds : IsDefect .outOfBounds

def BlamesData {α : Type} (x : Except Error α) : Prop := ∀ e, x = .error e → e.IsDefect

namespace BlamesData

variable {α β σ : Type}

theorem ok (a : α) : BlamesData (.ok a) := by
  intro e h
  cases h

theorem error {e : Error} (he : e.IsDefect) : BlamesData (.error e : Except Error α) := by
  intro e' h
  cases h
  exact he

theorem bind {x : Except Error α} {f : α → Except Error β} (hx : BlamesData x)
    (hf : ∀ a, BlamesData (f a)) : BlamesData (x >>= f) := by
  cases x with
  | error e => exact error (hx e rfl)
  | ok a => exact hf a

theorem map {x : Except Error α} {f : α → β} (hx : BlamesData x) : BlamesData (x.map f) := by
  cases x with
  | error e => exact error (hx e rfl)
  | ok a => exact ok (f a)

theorem word (data : Bytes) (offset width : Nat) : BlamesData (data.word offset width) := by
  refine map ?_
  rw [Bytes.slice]
  split
  · exact ok _
  · exact error .outOfBounds

end BlamesData

def Reader.BlamesData {α : Type} (r : Reader α) : Prop := ∀ c, CliMetadata.BlamesData (r c).1

namespace Reader.BlamesData

variable {α β : Type}

theorem pure (a : α) : Reader.BlamesData (Pure.pure a : Reader α) := fun _ ↦ .ok a

theorem bind {r : Reader α} {f : α → Reader β} (hr : Reader.BlamesData r)
    (hf : ∀ a, Reader.BlamesData (f a)) : Reader.BlamesData (r >>= f) := by
  intro c
  have hc := hr c
  rw [Attempt.bind_apply]
  rcases hrun : r c with ⟨e | a, c'⟩
  · rw [hrun] at hc
    exact .error (hc e rfl)
  · exact hf a c'

theorem byte : Reader.BlamesData Reader.byte := by
  intro c
  rw [Reader.byte]
  split
  · exact .ok _
  · exact .error .outOfBounds

theorem bytes (count : Nat) : Reader.BlamesData (Reader.bytes count) := by
  intro c
  rw [Reader.bytes, Bytes.slice]
  by_cases h : c.pos + count ≤ c.data.size
  · rw [if_pos h]
    exact .ok _
  · rw [if_neg h]
    exact .error .outOfBounds

theorem compressedNat : Reader.BlamesData Reader.compressedNat := by
  refine bind byte fun a ↦ ?_
  split
  · exact pure _
  · split
    · exact bind byte fun _ ↦ pure _
    · split
      · exact bind byte fun _ ↦ bind byte fun _ ↦ bind byte fun _ ↦ pure _
      · exact fun _ ↦ .error (.malformed _)

end Reader.BlamesData

namespace Loading

variable {m : Metadata} {α σ : Type} (table : Table) (rid index : Nat) (owner : Token) (d : Draft)

theorem blames_row : BlamesData (m.tables.row table rid) := by
  have hcolumns (columns : List Column) (offset : Nat) :
      BlamesData (m.tables.readColumns offset columns) := by
    induction columns generalizing offset with
    | nil => exact .ok _
    | cons column columns ih =>
      refine .bind (.word _ _ _) fun word ↦ .bind ?_ fun value ↦ .bind (ih _) fun values ↦ .ok _
      cases column with
      | coded kind =>
        refine .bind ?_ fun pair ↦ .ok _
        rw [CodedIndex.decode]
        split
        · exact .ok _
        · exact .error (.malformed _)
      | _ => exact .ok _
  rw [TableStream.row]
  split
  · exact .error .outOfBounds
  · exact hcolumns _ _

theorem blames_listEnd (column : Nat) (target : Table) :
    BlamesData (m.tables.listEnd table rid column target) := by
  rw [TableStream.listEnd]
  split
  · exact .map (blames_row table _)
  · exact .ok _

theorem blames_string : BlamesData (m.string index) := by
  rw [Metadata.string, StringHeap.get]
  dsimp only
  split
  · exact .error .outOfBounds
  · split
    · exact .error (.malformed _)
    · split
      · exact .ok _
      · exact .error (.malformed _)

theorem blames_blob : BlamesData (m.blob index) := by
  rw [Metadata.blob, BlobHeap.get]
  dsimp only
  split
  · exact .error .outOfBounds
  · exact Reader.BlamesData.bind .compressedNat .bytes _

theorem blames_guid : BlamesData (m.guid index) := by
  rw [Metadata.guid]
  split
  · split
    · exact .ok _
    · rw [GuidHeap.get]
      dsimp only
      split
      · exact .error .outOfBounds
      · exact .ok _
  · exact .ok _

theorem blames_expect (added : Token) : BlamesData (expect added table rid) := by
  rw [expect]
  split
  · exact .ok _
  · exact .error (.malformed _)

theorem blames_forRows {step : Nat → σ → Except Error σ} (hstep : ∀ rid s, BlamesData (step rid s))
    (first count : Nat) (s : σ) : BlamesData (forRows step first count s) := by
  induction count generalizing first s with
  | zero => exact .ok s
  | succ count ih => exact .bind (hstep first s) (ih (first + 1))

theorem blames_forTable {step : Row → σ → Except Error σ}
    (hstep : ∀ row s, BlamesData (step row s)) (s : σ) : BlamesData (forTable m table step s) :=
  blames_forRows (fun rid s ↦ .bind (blames_row table rid) fun row ↦ hstep row s) _ _ s

theorem blames_addReferences : BlamesData (addReferences m d) :=
  .bind (blames_forTable _ (fun _ _ ↦ .bind (blames_string _) fun _ ↦ .ok _) d) fun d ↦
    blames_forTable _ (fun _ _ ↦ .bind (blames_string _) fun _ ↦ .bind (blames_string _) fun _ ↦
      .ok _) d

theorem blames_methodRow (row : Row) : BlamesData (methodRow m row) :=
  .bind (blames_blob _) fun _ ↦ .bind (blames_string _) fun _ ↦ .ok _

theorem blames_addTypes : BlamesData (addTypes m d) :=
  blames_forTable _ (fun _ _ ↦ .bind (blames_string _) fun _ ↦ .bind (blames_string _) fun _ ↦
    .ok _) _

theorem blames_addField : BlamesData (addField m owner rid d) :=
  .bind (blames_row _ _) fun _ ↦ .bind (blames_blob _) fun _ ↦ .bind (blames_string _) fun _ ↦
    .bind (blames_expect _ _ _) fun _ ↦ .ok _

theorem blames_paramNames (first stop count : Nat) : BlamesData (paramNames m first stop count) := by
  refine blames_forRows (fun rid names ↦ .bind (blames_row _ _) fun row ↦ ?_) _ _ _
  dsimp only
  split
  · exact .bind (blames_string _) fun _ ↦ .ok _
  · exact .ok _

theorem blames_addMethod (methods : Array MethodRow) :
    BlamesData (addMethod m methods owner rid d) := by
  rw [addMethod]
  split
  · exact .error (.malformed _)
  · exact .bind (blames_expect _ _ _) fun _ ↦ .bind (blames_paramNames _ _ _) fun _ ↦ .ok _

theorem blames_addMembers (types : Array Row) (methods : Array MethodRow) :
    BlamesData (addMembers m types methods d) :=
  blames_forRows (fun _ _ ↦ .bind (blames_listEnd _ _ _ _) fun _ ↦
    .bind (blames_forRows (fun rid d ↦ blames_addField rid _ d) _ _ _) fun _ ↦
      .bind (blames_listEnd _ _ _ _) fun _ ↦
        blames_forRows (fun rid d ↦ blames_addMethod rid _ d methods) _ _ _) _ _ d

theorem blames_addRelations : BlamesData (addRelations m d) :=
  .bind (blames_forTable _ (fun _ _ ↦ .ok _) d) fun d ↦
    .bind (blames_forTable _ (fun _ _ ↦ .ok _) d) fun _ ↦
      .bind (.bind (blames_forTable _ (fun _ _ ↦ .bind (blames_string _) fun _ ↦ .ok _) _) fun _ ↦
        .ok _) fun _ ↦ .ok _

theorem blames_addMapped {map target : Table} {add : Token → Nat → Draft → Except Error Draft}
    (hadd : ∀ owner rid d, BlamesData (add owner rid d)) :
    BlamesData (addMapped m map target add d) :=
  blames_forRows (fun _ _ ↦ .bind (blames_row _ _) fun _ ↦ .bind (blames_listEnd _ _ _ _) fun _ ↦
    blames_forRows (hadd _) _ _ _) _ _ d

theorem blames_addPropertiesAndEvents : BlamesData (addPropertiesAndEvents m d) := by
  refine .bind (blames_addMapped d fun owner rid d ↦ ?_) fun d ↦
    .bind (blames_addMapped d fun owner rid d ↦ ?_) fun d ↦
      blames_forTable _ (fun _ _ ↦ .ok _) d
  · exact .bind (blames_row _ _) fun _ ↦ .bind (blames_blob _) fun _ ↦ .bind (blames_string _)
      fun _ ↦ .bind (blames_expect _ _ _) fun _ ↦ .ok _
  · exact .bind (blames_row _ _) fun _ ↦ .bind (blames_string _)
      fun _ ↦ .bind (blames_expect _ _ _) fun _ ↦ .ok _

theorem blames_addSpecs : BlamesData (addSpecs m d) :=
  .bind (blames_forTable _ (fun _ _ ↦ .bind (blames_blob _) fun _ ↦ .bind (blames_string _) fun _ ↦
    .ok _) d) fun d ↦
      .bind (blames_forTable _ (fun _ _ ↦ .bind (blames_blob _) fun _ ↦ .ok _) d) fun d ↦
        blames_forTable _ (fun _ _ ↦ .bind (blames_blob _) fun _ ↦ .ok _) d

/-- Whatever is wrong behind the headers of the streams breaks a format or points out of bounds. -/
theorem blames_assembly : BlamesData (assembly m) := by
  have hidentity (name : String) : BlamesData (identity m name) := by
    rw [identity]
    split
    · exact .bind (blames_row _ _) fun _ ↦ .bind (blames_string _) fun _ ↦ .ok _
    · exact .ok _
  rw [assembly]
  dsimp only
  split
  · exact .error (.malformed _)
  refine .bind (blames_row _ _) fun _ ↦ .bind (blames_string _) fun name ↦
    .bind (hidentity name) fun _ ↦ .bind (blames_guid _) fun _ ↦
      .bind (blames_addReferences _) fun _ ↦ .bind (blames_addTypes _) fun _ ↦
        .bind (blames_forTable _ (fun _ _ ↦ .bind (blames_methodRow _) fun _ ↦ .ok _) _) fun _ ↦
          .bind (blames_addMembers _ _ _) fun _ ↦ .bind (blames_addRelations _) fun _ ↦
            .bind (blames_addPropertiesAndEvents _) fun _ ↦ .bind (blames_addSpecs _) fun _ ↦ ?_
  split
  · refine .bind ?_ fun _ ↦ .ok _
    rw [UserStrings.read]
    split
    · exact .ok _
    · exact .error (.malformed _)
  · exact .ok _

end Loading

end CliMetadata
