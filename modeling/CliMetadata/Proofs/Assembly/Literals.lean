import CliMetadata.Proofs.Assembly.Building
import CliMetadata.Proofs.Bytes.Compressed
import CliMetadata.Proofs.Bytes.Holding
import CliMetadata.Proofs.Text.Encoding

namespace CliMetadata

open Cursor Grammar

theorem mark_or_ofNat {m n : Nat} (hm : m < 4) (hn : n < 0x40) :
    UInt8.ofNat (0x40 * m) ||| UInt8.ofNat n = UInt8.ofNat (0x40 * m + n) := by
  have hsize : UInt8.size = 256 := rfl
  apply UInt8.toNat_inj.1
  rw [UInt8.toNat_or, UInt8.toNat_ofNat_of_lt' (by omega), UInt8.toNat_ofNat_of_lt' (by omega),
    UInt8.toNat_ofNat_of_lt' (by omega)]
  exact (Nat.two_pow_add_eq_or_of_lt (i := 6) hn m).symm

namespace UserStrings

variable {heap grown : UserStrings} {index : Nat} {text : String} {bytes : List UInt8}

/-- The bytes of an entry: the length of what follows in some compressed form, and as many bytes,
of which the text takes all but an odd one. -/
inductive EntryForm : List UInt8 → String → Prop
  | mk {n : Nat} {first body : List UInt8} : UnsignedForm first n → body.length = n →
      EntryForm (first ++ body) (.ofList (Utf16.decodeLossy (unitsOf body)))

theorem entry_accepts : Reader.Accepts (do
    let length ← Reader.compressedNat
    Reader.bytes length) fun _ taken data ↦ ∃ n first body, taken = first ++ body ∧
      UnsignedForm first n ∧ body.length = n ∧ data = body.toArray := by
  refine (Reader.compressedNat_accepts.bind Reader.bytes_accepts).congr fun _ taken data ↦ ?_
  constructor
  · rintro ⟨first, body, n, rfl, hfirst, hbody, rfl⟩
    exact ⟨n, first, body, rfl, hfirst, hbody, rfl⟩
  · rintro ⟨n, first, body, rfl, hfirst, hbody, rfl⟩
    exact ⟨first, body, n, rfl, hfirst, hbody, rfl⟩

/-- A literal is found where its entry stands, whatever is around it. -/
theorem get_eq_ok_iff :
    heap.get index = .ok text ↔ ∃ bytes, heap.data.Holds index bytes ∧ EntryForm bytes text := by
  have hcursor : (⟨heap.data.after index, 0⟩ : Cursor)
      = between [] (heap.data.toList.drop index) := by
    rw [Bytes.after_eq_drop]
    rfl
  constructor
  · intro h
    rw [get] at h
    split at h
    · cases h
    · next hindex =>
      obtain ⟨data, hdata, h⟩ := Attempt.except_bind_eq_ok_iff.1 h
      cases h
      rw [Reader.onBytes, Attempt.run, hcursor] at hdata
      obtain ⟨_, rest, hrest, _, n, first, body, rfl, hfirst, hbody, rfl⟩ :=
        entry_accepts.sound (Prod.ext hdata rfl)
      refine ⟨first ++ body, ⟨heap.data.toList.take index, rest, ?_, ?_⟩, .mk hfirst hbody⟩
      · rw [← hrest, List.take_append_drop]
      · exact List.length_take_of_le (by simpa using Nat.le_of_not_le hindex)
  · rintro ⟨bytes, ⟨front, rest, hdata, rfl⟩, hform⟩
    cases hform with
    | @mk n first body hfirst hbody =>
      have hpos := List.length_pos_iff.2 hfirst.ne_nil
      have hsize : ¬heap.data.size ≤ front.length := by
        rw [hdata]
        simp only [List.size_toArray, List.length_append]
        omega
      have hread : Reader.onBytes (do
          let length ← Reader.compressedNat
          Reader.bytes length) (heap.data.after front.length) = .ok body.toArray := by
        rw [Reader.onBytes, Attempt.run, hcursor, hdata, List.drop_left]
        exact congrArg Prod.fst
          (entry_accepts.complete rest ⟨n, first, body, rfl, hfirst, hbody, rfl⟩)
      rw [get, if_neg hsize]
      exact Attempt.except_bind_eq_ok_iff.2 ⟨body.toArray, hread, rfl⟩

theorem get_mono (h : heap.get index = .ok text)
    (hgrown : heap.data.toList <+: grown.data.toList) : grown.get index = .ok text := by
  obtain ⟨bytes, hholds, hform⟩ := get_eq_ok_iff.1 h
  exact get_eq_ok_iff.2 ⟨bytes, hholds.mono hgrown, hform⟩

theorem lengthBytes_form {n : Nat} (h : n < 0x20000000) : UnsignedForm (lengthBytes n) n := by
  rw [lengthBytes]
  split
  · next hn => exact .one hn
  split
  · next hn =>
    change UnsignedForm [UInt8.ofNat (0x40 * 2) ||| .ofNat (n / 0x100), .ofNat n] n
    rw [mark_or_ofNat (by decide) (by omega)]
    exact .two hn
  · change UnsignedForm [UInt8.ofNat (0x40 * 3) ||| .ofNat (n / 0x1000000), _, _, _] n
    rw [mark_or_ofNat (by decide) (by omega)]
    exact .four h

theorem unitsOf_written {units : List Nat} (h : ∀ unit ∈ units, unit < 0x10000) (flag : UInt8) :
    unitsOf (units.flatMap (toLittleEndian 2) ++ [flag]) = units := by
  induction units with
  | nil => rfl
  | cons unit units ih =>
    have hunit := h unit (List.mem_cons_self ..)
    have hvalue : littleEndian (toLittleEndian 2 unit) = unit := by
      rw [littleEndian_toLittleEndian]
      exact Nat.mod_eq_of_lt hunit
    simp only [toLittleEndian, littleEndian, Nat.mul_zero, Nat.add_zero] at hvalue
    rw [List.flatMap_cons, List.append_assoc]
    refine congrArg₂ List.cons hvalue (ih fun u hu ↦ h u (List.mem_cons_of_mem unit hu))

theorem length_written (units : List Nat) :
    (units.flatMap (toLittleEndian 2)).length = units.length * 2 := by
  simp [List.length_flatMap, length_toLittleEndian]

theorem entryBytes_form (h : (Utf16.units text).length < 0xFFFFFFF) :
    EntryForm (entryBytes text) text := by
  have hunits (flag : UInt8) :
      unitsOf ((Utf16.units text).flatMap (toLittleEndian 2) ++ [flag]) = Utf16.units text :=
    unitsOf_written (fun _ ↦ Utf16.lt_of_mem_units) flag
  have hbody (flag : UInt8) :
      ((Utf16.units text).flatMap (toLittleEndian 2) ++ [flag]).length
        = (Utf16.units text).length * 2 + 1 := by
    rw [List.length_append, length_written, List.length_singleton]
  have hform := EntryForm.mk (lengthBytes_form (by omega))
    (hbody (if (Utf16.units text).any isSpecial then 1 else 0))
  rw [hunits, Utf16.decodeLossy_units, String.ofList_toList, ← List.append_assoc] at hform
  exact hform

theorem lt_length_entryBytes (text : String) :
    (Utf16.units text).length * 2 + 1 < (entryBytes text).length := by
  have hfirst : 0 < (lengthBytes ((Utf16.units text).length * 2 + 1)).length := by
    rw [lengthBytes]
    split_ifs <;> simp
  simp only [entryBytes, List.length_append, List.length_singleton, length_written]
  omega

theorem size_push (heap : UserStrings) (text : String) :
    (heap.push text).2.size = heap.size + (entryBytes text).length := by
  simp [push, size]

theorem push_grown (heap : UserStrings) (text : String) :
    heap.data.toList <+: (heap.push text).2.data.toList := by
  simp [push]

/-- A literal that is pushed is found at the offset that is given for it. -/
theorem get_push (heap : UserStrings) (h : (Utf16.units text).length < 0xFFFFFFF) :
    (heap.push text).2.get (heap.push text).1 = .ok text := by
  refine get_eq_ok_iff.2 ⟨entryBytes text, ⟨heap.data.toList, [], ?_, ?_⟩, entryBytes_form h⟩
  · simp [push]
  · simp [push]

end UserStrings

namespace Draft

variable {d : Draft} {edits : List Edit}

/-- No edit but the one that sets the heap takes anything away from it. -/
theorem Edit.userStrings_grown (e : Edit) (h : ∀ heap, e ≠ .setUserStrings heap) :
    d.rows.userStrings.data.toList <+: (e.apply d).rows.userStrings.data.toList := by
  cases e with
  | setUserStrings heap => exact absurd rfl (h heap)
  | addUserString text => exact UserStrings.push_grown _ text
  | _ => exact List.prefix_rfl

theorem userStrings_grown (h : ∀ heap, .setUserStrings heap ∉ edits) :
    d.rows.userStrings.data.toList <+:
      (edits.foldl Edit.apply d).rows.userStrings.data.toList := by
  induction edits generalizing d with
  | nil => exact List.prefix_rfl
  | cons e edits ih =>
    have hfirst := e.userStrings_grown (d := d) fun heap he ↦ h heap (he ▸ List.mem_cons_self ..)
    exact hfirst.trans (ih fun heap hmem ↦ h heap (List.mem_cons_of_mem e hmem))

theorem userString?_addUserString {grown : Draft} {text : String}
    (hgrown : (d.addUserString text).2.rows.userStrings.data.toList <+:
      grown.rows.userStrings.data.toList) (hsize : grown.rows.userStrings.size ≤ 0x1000000) :
    grown.build.userString? (d.addUserString text).1 = some text := by
  have hle : (d.rows.userStrings.push text).2.size ≤ grown.rows.userStrings.size :=
    hgrown.length_le
  have hentry := UserStrings.lt_length_entryBytes text
  rw [UserStrings.size_push] at hle
  have hget : grown.rows.userStrings.get d.rows.userStrings.size = .ok text :=
    UserStrings.get_mono (UserStrings.get_push d.rows.userStrings (by omega)) hgrown
  have hrow : (d.addUserString text).1.row = d.rows.userStrings.size := by
    refine (Token.row_ofParts _ _).trans (Nat.mod_eq_of_lt ?_)
    change d.rows.userStrings.size < 0x1000000
    omega
  have htable : (d.addUserString text).1.table = Assembly.literalTable := Token.table_ofParts _ _
  rw [Assembly.userString?, if_pos htable, hrow]
  change (grown.rows.userStrings.get d.rows.userStrings.size).toOption = some text
  rw [hget]
  rfl

/-- Whatever is changed about a draft, unless its heap is set anew: an offset that leads to a
literal leads to it from then on, and in the assembly that is built the token of every added literal
leads to its text, as long as the heap has no more places than 24 bits number. -/
theorem userStrings_survive (hkeep : ∀ heap, .setUserStrings heap ∉ edits) :
    (∀ index text, d.rows.userStrings.get index = .ok text →
      (edits.foldl Edit.apply d).rows.userStrings.get index = .ok text) ∧
    ((edits.foldl Edit.apply d).rows.userStrings.size ≤ 0x1000000 →
      ∀ before text later, edits = before ++ .addUserString text :: later →
        (edits.foldl Edit.apply d).build.userString?
          ((before.foldl Edit.apply d).addUserString text).1 = some text) := by
  constructor
  · intro index text h
    exact UserStrings.get_mono h (userStrings_grown hkeep)
  · rintro hsize before text later rfl
    have hlater : ∀ heap, .setUserStrings heap ∉ later := fun heap hmem ↦
      hkeep heap (List.mem_append_right before (List.mem_cons_of_mem _ hmem))
    rw [List.foldl_append, List.foldl_cons] at hsize ⊢
    generalize before.foldl Edit.apply d = d at hsize ⊢
    have hgrown := userStrings_grown (d := Edit.apply d (.addUserString text)) hlater
    generalize later.foldl Edit.apply (Edit.apply d (.addUserString text)) = grown
      at hsize hgrown ⊢
    exact userString?_addUserString hgrown hsize

theorem userStrings_survive_clef :
    let d := (Draft.new "App").setUserStrings ⟨#[0, 3, 0x41, 0, 0]⟩
    let edits := [.addUserString "𝄞", .addType "App" "Program" 0 none, .addUserString "b"]
    (∀ heap, .setUserStrings heap ∉ edits) ∧
      (edits.foldl Edit.apply d).rows.userStrings.size ≤ 0x1000000 ∧
      (edits.foldl Edit.apply d).rows.userStrings.get 1 = .ok "A" ∧
      (edits.foldl Edit.apply d).build.userString? ⟨0x70000005⟩ = some "𝄞" := by
  intro d edits
  have hkeep : ∀ heap, .setUserStrings heap ∉ edits := by simp [edits]
  have hsize : (edits.foldl Edit.apply d).rows.userStrings.size ≤ 0x1000000 := by decide +kernel
  have hfirst : d.rows.userStrings.get 1 = .ok "A" := by rfl
  obtain ⟨hkept, htokens⟩ := userStrings_survive (d := d) hkeep
  exact ⟨hkeep, hsize, hkept 1 "A" hfirst, htokens hsize [] "𝄞" _ rfl⟩

end Draft

end CliMetadata
