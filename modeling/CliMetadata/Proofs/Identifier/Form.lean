import CliMetadata.Attempt
import CliMetadata.MemberId
import CliMetadata.Proofs.Text.Blank
import Mathlib.Data.List.Induction
import Mathlib.Data.Nat.Digits.Defs

namespace CliMetadata

namespace Hex

def lowercase : List Char := "0123456789abcdef".toList

def digits : List Char := lowercase ++ "ABCDEF".toList

def place (c : Char) : Nat := lowercase.idxOf c.toLower

def number (cs : List Char) : Nat := Nat.ofDigits 16 (cs.reverse.map place)

/-- A check of some characters one by one. Other ways to decide it go through all characters. -/
theorem forall_of_all (holds : Char → Prop) [DecidablePred holds] {cs : List Char} {c : Char}
    (h : cs.all (fun c ↦ decide (holds c)) = true) (hc : c ∈ cs) : holds c :=
  of_decide_eq_true (List.all_eq_true.1 h c hc)

theorem digitValue?_digit {n : Nat} (hn : n < 16) : digitValue? (digit n) = some n := by
  have h : ∀ m < 16, digitValue? (digit m) = some m := by decide
  exact h n hn

theorem digit_mem_lowercase {n : Nat} (hn : n < 16) : digit n ∈ lowercase := by
  have h : ∀ m < 16, digit m ∈ lowercase := by decide
  exact h n hn

theorem mem_lowercase_of_mem_fixed {width n : Nat} {c : Char} (h : c ∈ fixed width n) :
    c ∈ lowercase := by
  induction width generalizing n with
  | zero => simp [fixed] at h
  | succ width ih =>
    rw [fixed, List.mem_append, List.mem_singleton] at h
    rcases h with h | rfl
    · exact ih h
    · exact digit_mem_lowercase (Nat.mod_lt n (by omega))

section Digits

variable {c : Char}

theorem toNat_of_isDigit (h : isDigit c = true) :
    48 ≤ c.toNat ∧ c.toNat ≤ 57 ∨ 65 ≤ c.toNat ∧ c.toNat ≤ 70 ∨ 97 ≤ c.toNat ∧ c.toNat ≤ 102 := by
  have hle (x y : Char) : x ≤ y ↔ x.toNat ≤ y.toNat := Iff.rfl
  rw [isDigit, digitValue?] at h
  simp only [hle] at h
  split at h
  · next hc => exact .inl hc
  · split at h
    · next hc => exact .inr (.inr hc)
    · split at h
      · next hc => exact .inr (.inl hc)
      · cases h

theorem mem_digits_iff : c ∈ digits ↔ isDigit c = true := by
  constructor
  · exact forall_of_all (isDigit · = true) (by decide)
  · intro h
    have hsmall : ∀ m < 103, isDigit (Char.ofNat m) = true → Char.ofNat m ∈ digits := by decide
    have hrange := toNat_of_isDigit h
    rw [← Char.ofNat_toNat c] at h ⊢
    exact hsmall c.toNat (by omega) h

theorem digitValue?_of_mem (h : c ∈ digits) : digitValue? c = some (place c) :=
  forall_of_all (fun d ↦ digitValue? d = some (place d)) (by decide) h

theorem place_lt (h : c ∈ digits) : place c < 16 :=
  forall_of_all (place · < 16) (by decide) h

theorem digit_place (h : c ∈ lowercase) : digit (place c) = c :=
  forall_of_all (fun d ↦ digit (place d) = d) (by decide) h

theorem mem_digits_of_lowercase (h : c ∈ lowercase) : c ∈ digits := List.mem_append_left _ h

theorem isBlank_of_isDigit (h : isDigit c = true) : isBlank c = false := by
  have hrange := toNat_of_isDigit h
  exact isBlank_of_toNat (by omega) (by omega)

theorem utf8Size_of_isDigit (h : isDigit c = true) : c.utf8Size = 1 := by
  have hrange := toNat_of_isDigit h
  rw [Char.utf8Size_eq_one_iff, UInt32.le_iff_toNat_le]
  change c.toNat ≤ 127
  omega

end Digits

section Numbers

variable {cs : List Char} {n : Nat}

theorem number_append (cs : List Char) (c : Char) :
    number (cs ++ [c]) = number cs * 16 + place c := by
  rw [number, List.reverse_append, List.reverse_singleton, List.singleton_append, List.map_cons,
    Nat.ofDigits_cons, ← number, Nat.mul_comm, Nat.add_comm]

theorem number_lt (h : ∀ c ∈ cs, c ∈ digits) : number cs < 16 ^ cs.length := by
  have hlt : ∀ n ∈ cs.reverse.map place, n < 16 := by
    intro n hn
    obtain ⟨c, hc, rfl⟩ := List.mem_map.1 hn
    exact place_lt (h c (List.mem_reverse.1 hc))
  have hbound := Nat.ofDigits_lt_base_pow_length (by omega) hlt
  rwa [List.length_map, List.length_reverse] at hbound

theorem value?_eq_some_iff : value? cs = some n ↔ (∀ c ∈ cs, c ∈ digits) ∧ number cs = n := by
  induction cs using List.reverseRecOn generalizing n with
  | nil => simp [value?, number]
  | append_singleton cs c ih =>
    rw [value?, List.foldlM_append, ← value?, Option.bind_eq_bind, Option.bind_eq_some_iff]
    simp only [List.foldlM_cons, List.foldlM_nil, Option.pure_def, Option.bind_eq_bind,
      Option.bind_fun_some, ih, List.forall_mem_append, List.forall_mem_singleton, number_append]
    constructor
    · rintro ⟨_, ⟨hdigits, rfl⟩, hlast⟩
      obtain ⟨value, hc, rfl⟩ := Option.map_eq_some_iff.1 hlast
      have hmem : c ∈ digits := mem_digits_iff.2 (Option.isSome_of_eq_some hc)
      rw [digitValue?_of_mem hmem] at hc
      cases hc
      exact ⟨⟨hdigits, hmem⟩, rfl⟩
    · rintro ⟨⟨hdigits, hmem⟩, rfl⟩
      exact ⟨_, ⟨hdigits, rfl⟩, by rw [digitValue?_of_mem hmem, Option.map_some]⟩

theorem number_fixed {width : Nat} (hn : n < 16 ^ width) : number (fixed width n) = n := by
  induction width generalizing n with
  | zero =>
    rw [pow_zero, Nat.lt_one_iff] at hn
    rw [hn]
    rfl
  | succ width ih =>
    have hfront : n / 16 < 16 ^ width := by
      rw [pow_succ] at hn
      omega
    have hlast : n % 16 < 16 := Nat.mod_lt n (by omega)
    have hplace := digitValue?_of_mem (mem_digits_of_lowercase (digit_mem_lowercase hlast))
    rw [digitValue?_digit hlast, Option.some_inj] at hplace
    rw [fixed, number_append, ih hfront, ← hplace]
    omega

theorem value?_fixed {width : Nat} (hn : n < 16 ^ width) : value? (fixed width n) = some n :=
  value?_eq_some_iff.2
    ⟨fun _ h ↦ mem_digits_of_lowercase (mem_lowercase_of_mem_fixed h), number_fixed hn⟩

theorem fixed_number (h : ∀ c ∈ cs, c ∈ lowercase) : fixed cs.length (number cs) = cs := by
  induction cs using List.reverseRecOn with
  | nil => rfl
  | append_singleton cs c ih =>
    rw [List.forall_mem_append, List.forall_mem_singleton] at h
    have hlt := place_lt (mem_digits_of_lowercase h.2)
    have hfront : (number cs * 16 + place c) / 16 = number cs := by omega
    have hlast : (number cs * 16 + place c) % 16 = place c := by omega
    rw [List.length_append, List.length_singleton, fixed, number_append, hfront, hlast, ih h.1,
      digit_place h.2]

end Numbers

section Pairs

variable {cs : List Char} {bytes : List UInt8} {a b : Char}

theorem number_pair_lt (ha : a ∈ digits) (hb : b ∈ digits) : number [a, b] < 256 :=
  number_lt (by simp [ha, hb])

theorem toBytes?_pair (ha : a ∈ digits) (hb : b ∈ digits) :
    toBytes? (a :: b :: cs) = (toBytes? cs).map (UInt8.ofNat (number [a, b]) :: ·) := by
  have hnumber : number [a, b] = place a * 16 + place b := by
    rw [show [a, b] = [a] ++ [b] from rfl, number_append]
    simp [number]
  rw [toBytes?, digitValue?_of_mem ha, digitValue?_of_mem hb, hnumber]
  cases toBytes? cs <;> rfl

theorem mem_digits_of_toBytes? (h : toBytes? cs = some bytes) : ∀ c ∈ cs, c ∈ digits := by
  fun_induction toBytes? cs generalizing bytes with
  | case1 => exact fun c hc ↦ absurd hc List.not_mem_nil
  | case2 => cases h
  | case3 a b rest ih =>
    obtain ⟨_, ha, h⟩ := Option.bind_eq_some_iff.1 h
    obtain ⟨_, hb, h⟩ := Option.bind_eq_some_iff.1 h
    obtain ⟨_, hrest, _⟩ := Option.bind_eq_some_iff.1 h
    have hdigit {c : Char} {n : Nat} (hc : digitValue? c = some n) : c ∈ digits :=
      mem_digits_iff.2 (Option.isSome_of_eq_some hc)
    rw [List.forall_mem_cons, List.forall_mem_cons]
    exact ⟨hdigit ha, hdigit hb, ih hrest⟩

theorem toBytes?_eq_some_iff : toBytes? cs = some bytes ↔
    (∀ c ∈ cs, c ∈ digits) ∧ cs.length = 2 * bytes.length ∧
      ∀ i (h : i < bytes.length), bytes[i].toNat = number ((cs.drop (2 * i)).take 2) := by
  induction cs using toBytes?.induct generalizing bytes with
  | case1 => cases bytes <;> simp [toBytes?]
  | case2 c =>
    refine iff_of_false (by simp [toBytes?]) fun h ↦ ?_
    have hlength := h.2.1
    rw [List.length_singleton] at hlength
    omega
  | case3 a b rest ih =>
    by_cases hdigits : ∀ c ∈ a :: b :: rest, c ∈ digits
    · have ha : a ∈ digits := hdigits a (by simp)
      have hb : b ∈ digits := hdigits b (by simp)
      have hlt := number_pair_lt ha hb
      rw [toBytes?_pair ha hb, Option.map_eq_some_iff, and_iff_right hdigits]
      constructor
      · rintro ⟨bytes, hrest, rfl⟩
        obtain ⟨_, hlength, hbytes⟩ := ih.1 hrest
        refine ⟨by simp only [List.length_cons]; omega, fun i hi ↦ ?_⟩
        cases i with
        | zero => exact (UInt8.toNat_ofNat').trans (Nat.mod_eq_of_lt hlt)
        | succ i => exact hbytes i (Nat.lt_of_succ_lt_succ hi)
      · rintro ⟨hlength, hbytes⟩
        cases bytes with
        | nil => simp at hlength
        | cons byte bytes =>
          have hfirst : byte.toNat = number [a, b] := hbytes 0 (Nat.zero_lt_succ _)
          refine ⟨bytes, ih.2 ⟨fun c hc ↦ hdigits c (by simp [hc]), ?_, fun i hi ↦ ?_⟩, ?_⟩
          · simp only [List.length_cons] at hlength
            omega
          · exact hbytes (i + 1) (Nat.succ_lt_succ hi)
          · rw [← hfirst, UInt8.ofNat_toNat]
    · exact iff_of_false (fun h ↦ hdigits (mem_digits_of_toBytes? h)) fun h ↦ hdigits h.1

theorem toBytes?_digits (bytes : List UInt8) :
    toBytes? (bytes.flatMap fun b ↦ fixed 2 b.toNat) = some bytes := by
  induction bytes with
  | nil => rfl
  | cons b bytes ih =>
    obtain ⟨x, y, hpair⟩ : ∃ x y, fixed 2 b.toNat = [x, y] := ⟨_, _, rfl⟩
    have hdigits : ∀ c ∈ fixed 2 b.toNat, c ∈ digits := fun _ h ↦
      mem_digits_of_lowercase (mem_lowercase_of_mem_fixed h)
    have hnumber : number (fixed 2 b.toNat) = b.toNat := number_fixed b.toNat_lt
    rw [hpair] at hdigits hnumber
    rw [List.flatMap_cons, hpair, List.cons_append, List.singleton_append,
      toBytes?_pair (hdigits x (by simp)) (hdigits y (by simp)), ih, hnumber, Option.map_some,
      UInt8.ofNat_toNat]

theorem flatMap_fixed_of_toBytes? (h : toBytes? cs = some bytes) (hcs : ∀ c ∈ cs, c ∈ lowercase) :
    (bytes.flatMap fun b ↦ fixed 2 b.toNat) = cs := by
  induction cs using toBytes?.induct generalizing bytes with
  | case1 =>
    cases h
    rfl
  | case2 => cases h
  | case3 a b rest ih =>
    have hpair : ∀ c ∈ [a, b], c ∈ lowercase := fun c hc ↦
      hcs c (List.mem_append_left rest hc)
    have ha := mem_digits_of_lowercase (hpair a (by simp))
    have hb := mem_digits_of_lowercase (hpair b (by simp))
    rw [toBytes?_pair ha hb, Option.map_eq_some_iff] at h
    obtain ⟨bytes, hrest, rfl⟩ := h
    have hprinted : fixed 2 (number [a, b]) = [a, b] := fixed_number hpair
    rw [List.flatMap_cons, UInt8.toNat_ofNat', Nat.mod_eq_of_lt (number_pair_lt ha hb), hprinted,
      ih hrest fun c hc ↦ hcs c (by simp [hc])]
    rfl

end Pairs

end Hex

theorem segments_of_not_mem {c : Char} {cs : List Char} (h : c ∉ cs) : segments c cs = [cs] := by
  induction cs with
  | nil => rfl
  | cons x cs ih =>
    rw [List.mem_cons, not_or] at h
    rw [segments, if_neg (Ne.symm h.1), ih h.2]

theorem segments_append {c : Char} {cs rest : List Char} (h : c ∉ cs) :
    segments c (cs ++ c :: rest) = cs :: segments c rest := by
  induction cs with
  | nil => rw [List.nil_append, segments, if_pos rfl]
  | cons x cs ih =>
    rw [List.mem_cons, not_or] at h
    rw [List.cons_append, segments, if_neg (Ne.symm h.1), ih h.2]

theorem segments_eq_splitOn (c : Char) (cs : List Char) : segments c cs = cs.splitOn c := by
  induction cs with
  | nil => rfl
  | cons x cs ih =>
    have hne : cs.splitOn c ≠ [] := List.splitOn_ne_nil c cs
    have hcons : (x :: cs).splitOn c = if x = c then [] :: cs.splitOn c
        else (cs.splitOn c).modifyHead (x :: ·) := by
      simp only [List.splitOn_eq_splitOnP, List.splitOnP_cons_eq_if_modifyHead, beq_iff_eq]
    rw [segments, ih, hcons]
    split
    · rfl
    · cases hpieces : cs.splitOn c with
      | nil => exact absurd hpieces hne
      | cons piece pieces => rfl

namespace Guid

variable (g : Guid)

theorem length_toList : g.toList.length = 16 := by
  rw [toList, Vector.length_toList]

theorem ofList_toList : ofList g.toList = g := by
  obtain ⟨bytes⟩ := g
  refine congrArg Guid.mk (Vector.ext fun i hi ↦ ?_)
  simp [toList]

theorem toList_ofList {bytes : List UInt8} (h : bytes.length = 16) :
    (ofList bytes).toList = bytes := by
  refine List.ext_getElem (by rw [length_toList, h]) fun i hi hi' ↦ ?_
  simp [toList, ofList, hi']

end Guid

namespace MemberId

/-- A text with the form of an identifier: thirty-two digits, one to eight digits and the letter of
a kind, with colons between them. -/
structure HasForm (input : String) (version token : List Char) (kind : MemberKind) : Prop where
  text_eq : input.toList = version ++ ':' :: (token ++ ':' :: [kind.code])
  version_length : version.length = 32
  token_length : 1 ≤ token.length ∧ token.length ≤ 8
  version_digits : ∀ c ∈ version, c ∈ Hex.digits
  token_digits : ∀ c ∈ token, c ∈ Hex.digits

/-- Digits that write an identifier: its sixteen bytes, two digits for each, and its token. -/
structure WrittenBy (id : MemberId) (version token : List Char) : Prop where
  mvid : ∀ i (h : i < 16), id.mvid.bytes[i].toNat = Hex.number ((version.drop (2 * i)).take 2)
  token : id.token.toNat = Hex.number token

/-- The one form in which identifiers are printed. -/
structure IsPrinted (version token : List Char) : Prop where
  version_lowercase : ∀ c ∈ version, c ∈ Hex.lowercase
  token_lowercase : ∀ c ∈ token, c ∈ Hex.lowercase
  token_length : token.length = 8

section Reading

variable {id : MemberId} {version token cs : List Char} {kind : MemberKind} {input : String}

theorem byteLength_of_digits (h : ∀ c ∈ cs, c ∈ Hex.digits) : byteLength cs = cs.length := by
  induction cs with
  | nil => rfl
  | cons c cs ih =>
    rw [List.forall_mem_cons] at h
    have hone := Hex.utf8Size_of_isDigit (Hex.mem_digits_iff.1 h.1)
    rw [byteLength, List.foldr_cons, ← byteLength, ih h.2, hone, List.length_cons, Nat.add_comm]

theorem colon_not_mem_of_digits (h : ∀ c ∈ cs, c ∈ Hex.digits) : ':' ∉ cs :=
  fun hcolon ↦ absurd (h _ hcolon) (by decide)

theorem colon_ne_code (kind : MemberKind) : ':' ∉ [kind.code] := by
  cases kind <;> decide

theorem readVersion_eq_ok_iff {g : Guid} : readVersion cs = .ok g ↔
    cs.length = 32 ∧ Hex.toBytes? cs = some g.toList := by
  rw [readVersion]
  constructor
  · intro h
    split at h
    · cases h
    · next hlength =>
      split at h
      · next bytes hbytes =>
        cases h
        split at hbytes
        · have hread := Hex.toBytes?_eq_some_iff.1 hbytes
          rw [not_not, byteLength_of_digits hread.1] at hlength
          rw [Guid.toList_ofList (by omega)]
          exact ⟨hlength, hbytes⟩
        · cases hbytes
      · cases h
  · rintro ⟨hlength, hbytes⟩
    have hdigits := Hex.mem_digits_of_toBytes? hbytes
    have hall : cs.all Hex.isDigit = true :=
      List.all_eq_true.2 fun c hc ↦ Hex.mem_digits_iff.1 (hdigits c hc)
    rw [if_neg (not_not_intro ((byteLength_of_digits hdigits).trans hlength)), if_pos hall, hbytes]
    exact congrArg Except.ok (Guid.ofList_toList g)

theorem readToken_eq_ok_iff {t : Token} : readToken cs = .ok t ↔
    (1 ≤ cs.length ∧ cs.length ≤ 8) ∧ Hex.value? cs = some t.toNat := by
  rw [readToken]
  constructor
  · intro h
    split at h
    · cases h
    · next hshort =>
      split at h
      · next n hn =>
        cases h
        obtain ⟨hdigits, hnumber⟩ := Hex.value?_eq_some_iff.1 hn
        rw [not_or, byteLength_of_digits hdigits, Nat.not_lt] at hshort
        obtain ⟨hne, hmost⟩ := hshort
        have hlt : n < 16 ^ 8 := by
          rw [← hnumber]
          exact (Hex.number_lt hdigits).trans_le (Nat.pow_le_pow_right (by omega) hmost)
        refine ⟨⟨List.length_pos_iff.2 hne, hmost⟩, ?_⟩
        rw [hn, Token.toNat, Token.ofNat, UInt32.toNat_ofNat', Nat.mod_eq_of_lt (by simpa using hlt)]
      · cases h
  · rintro ⟨⟨hleast, hmost⟩, hvalue⟩
    have hdigits := (Hex.value?_eq_some_iff.1 hvalue).1
    have hne : cs ≠ [] := List.ne_nil_of_length_pos hleast
    rw [if_neg (by rw [byteLength_of_digits hdigits]; simp [hne, hmost]), hvalue]
    exact congrArg Except.ok (Token.ofNat_toNat _)

theorem readKind_eq_ok_iff : readKind cs = .ok kind ↔ cs = [kind.code] := by
  constructor
  · intro h
    rcases cs with _ | ⟨c, _ | ⟨d, cs⟩⟩
    · cases h
    · rw [readKind] at h
      split at h
      · next hkind =>
        cases h
        rw [MemberKind.ofCode?_eq_some_iff.1 hkind]
      · cases h
    · cases h
  · rintro rfl
    rw [readKind, MemberKind.ofCode?_eq_some_iff.2 rfl]

theorem toBytes?_toList_iff {g : Guid} : Hex.toBytes? cs = some g.toList ↔
    (∀ c ∈ cs, c ∈ Hex.digits) ∧ cs.length = 32 ∧
      ∀ i (h : i < 16), g.bytes[i].toNat = Hex.number ((cs.drop (2 * i)).take 2) := by
  rw [Hex.toBytes?_eq_some_iff]
  simp only [Guid.length_toList]
  simp only [Guid.toList, Vector.getElem_toList]

/-- What an identifier is read from, and what is read from it. -/
theorem parse_eq_ok_iff : parse input = .ok id ↔
    ∃ version token, HasForm input version token id.kind ∧ id.WrittenBy version token := by
  constructor
  · intro h
    rw [parse] at h
    split at h
    · next version token kind hsegments =>
      obtain ⟨g, hversion, h⟩ := Attempt.except_bind_eq_ok_iff.1 h
      obtain ⟨t, htoken, h⟩ := Attempt.except_bind_eq_ok_iff.1 h
      obtain ⟨k, hkind, h⟩ := Attempt.except_bind_eq_ok_iff.1 h
      cases h
      obtain ⟨_, hversion⟩ := readVersion_eq_ok_iff.1 hversion
      obtain ⟨hversionDigits, hlength, hmvid⟩ := toBytes?_toList_iff.1 hversion
      obtain ⟨htokenLength, hvalue⟩ := readToken_eq_ok_iff.1 htoken
      obtain ⟨htokenDigits, hnumber⟩ := Hex.value?_eq_some_iff.1 hvalue
      have hjoined : [':'].intercalate (input.toList.splitOn ':') = input.toList :=
        List.intercalate_splitOn ':'
      rw [← segments_eq_splitOn, hsegments, readKind_eq_ok_iff.1 hkind] at hjoined
      refine ⟨version, token, ⟨?_, hlength, htokenLength, hversionDigits, htokenDigits⟩,
        hmvid, hnumber.symm⟩
      rw [← hjoined]
      simp [List.intercalate_cons_cons]
    · cases h
  · rintro ⟨version, token, hform, hwritten⟩
    have hversion : readVersion version = .ok id.mvid := readVersion_eq_ok_iff.2
      ⟨hform.version_length,
        toBytes?_toList_iff.2 ⟨hform.version_digits, hform.version_length, hwritten.mvid⟩⟩
    have htoken : readToken token = .ok id.token := readToken_eq_ok_iff.2
      ⟨hform.token_length, Hex.value?_eq_some_iff.2 ⟨hform.token_digits, hwritten.token.symm⟩⟩
    have hkind : readKind [id.kind.code] = .ok id.kind := readKind_eq_ok_iff.2 rfl
    rw [parse, hform.text_eq, segments_append (colon_not_mem_of_digits hform.version_digits),
      segments_append (colon_not_mem_of_digits hform.token_digits),
      segments_of_not_mem (colon_ne_code _)]
    simp only [hversion, htoken, hkind]
    rfl

theorem parse?_eq_some_iff : parse? input = some id ↔ parse input = .ok id := by
  rw [parse?]
  cases parse input <;> simp [Except.toOption]

theorem HasForm.exists_writtenBy (h : HasForm input version token kind) :
    ∃ id : MemberId, id.kind = kind ∧ id.WrittenBy version token := by
  have hpair (i : Nat) : Hex.number ((version.drop (2 * i)).take 2) < 256 := by
    have hdigits : ∀ c ∈ (version.drop (2 * i)).take 2, c ∈ Hex.digits := fun c hc ↦
      h.version_digits c (List.mem_of_mem_drop (List.mem_of_mem_take hc))
    exact (Hex.number_lt hdigits).trans_le
      (Nat.pow_le_pow_right (by omega) (List.length_take_le 2 _))
  have htoken : Hex.number token < 16 ^ 8 :=
    (Hex.number_lt h.token_digits).trans_le (Nat.pow_le_pow_right (by omega) h.token_length.2)
  refine ⟨⟨⟨Vector.ofFn fun i ↦ .ofNat (Hex.number ((version.drop (2 * i)).take 2))⟩,
    .ofNat (Hex.number token), kind⟩, rfl, fun i hi ↦ ?_, ?_⟩
  · rw [Vector.getElem_ofFn, UInt8.toNat_ofNat', Nat.mod_eq_of_lt (hpair i)]
  · rw [Token.toNat, Token.ofNat, UInt32.toNat_ofNat', Nat.mod_eq_of_lt (by simpa using htoken)]

end Reading

section Printing

variable (id : MemberId)

def versionDigits : List Char := id.mvid.toList.flatMap fun b ↦ Hex.fixed 2 b.toNat

def tokenDigits : List Char := Hex.fixed 8 id.token.toNat

theorem text_toList : id.text.toList = id.versionDigits ++ ':' :: (id.tokenDigits ++
    ':' :: [id.kind.code]) := by
  simp [text, Guid.text, Hex.ofBytes, versionDigits, tokenDigits]

theorem isPrinted_digits : IsPrinted id.versionDigits id.tokenDigits where
  version_lowercase c h := by
    obtain ⟨b, _, hc⟩ := List.mem_flatMap.1 h
    exact Hex.mem_lowercase_of_mem_fixed hc
  token_lowercase _ h := Hex.mem_lowercase_of_mem_fixed h
  token_length := Hex.length_fixed _ _

theorem writtenBy_digits : id.WrittenBy id.versionDigits id.tokenDigits where
  mvid := (toBytes?_toList_iff.1 (Hex.toBytes?_digits id.mvid.toList)).2.2
  token := (Hex.value?_eq_some_iff.1 (Hex.value?_fixed id.token.toNat_lt)).2.symm

theorem hasForm_text : HasForm id.text id.versionDigits id.tokenDigits id.kind where
  text_eq := id.text_toList
  version_length := (toBytes?_toList_iff.1 (Hex.toBytes?_digits id.mvid.toList)).2.1
  token_length := by
    rw [id.isPrinted_digits.token_length]
    omega
  version_digits c h := Hex.mem_digits_of_lowercase (id.isPrinted_digits.version_lowercase c h)
  token_digits c h := Hex.mem_digits_of_lowercase (id.isPrinted_digits.token_lowercase c h)

theorem parse_text : parse id.text = .ok id :=
  parse_eq_ok_iff.2 ⟨_, _, id.hasForm_text, id.writtenBy_digits⟩

variable {id}

/-- Of the texts that write an identifier one is printed for it. -/
theorem text_eq_iff {input : String} {version token : List Char}
    (hform : HasForm input version token id.kind) (hwritten : id.WrittenBy version token) :
    id.text = input ↔ IsPrinted version token := by
  rw [← String.toList_inj, text_toList, hform.text_eq]
  constructor
  · intro h
    obtain ⟨rfl, hrest⟩ := List.append_inj h
      (id.hasForm_text.version_length.trans hform.version_length.symm)
    obtain ⟨rfl, _⟩ := List.append_inj' (List.cons.inj hrest).2 rfl
    exact id.isPrinted_digits
  · intro h
    have hversion : id.versionDigits = version := Hex.flatMap_fixed_of_toBytes?
      (toBytes?_toList_iff.2 ⟨hform.version_digits, hform.version_length, hwritten.mvid⟩)
      h.version_lowercase
    have htoken : id.tokenDigits = token := by
      rw [tokenDigits, hwritten.token, ← h.token_length, Hex.fixed_number h.token_lowercase]
    rw [hversion, htoken]

/-- The texts that are read are those of the form of an identifier. What is read has the bytes, the
token and the kind that they write; so every identifier is read back from its text. -/
theorem exists_parse_iff_hasForm :
    (∀ input, (∃ id, parse input = .ok id) ↔
        ∃ version token kind, HasForm input version token kind) ∧
      (∀ input id, parse input = .ok id ↔
        ∃ version token, HasForm input version token id.kind ∧ id.WrittenBy version token) ∧
      ∀ id, parse id.text = .ok id := by
  refine ⟨fun input ↦ ⟨?_, ?_⟩, fun input id ↦ parse_eq_ok_iff, parse_text⟩
  · rintro ⟨id, hid⟩
    obtain ⟨version, token, hform, _⟩ := parse_eq_ok_iff.1 hid
    exact ⟨version, token, id.kind, hform⟩
  · rintro ⟨version, token, kind, hform⟩
    obtain ⟨id, rfl, hwritten⟩ := hform.exists_writtenBy
    exact ⟨id, parse_eq_ok_iff.2 ⟨version, token, hform, hwritten⟩⟩

end Printing

end MemberId

end CliMetadata
