import CliMetadata.Bytes.Cursor

namespace CliMetadata

variable {α β : Type}

def Cursor.between (front behind : List UInt8) : Cursor := ⟨(front ++ behind).toArray, front.length⟩

/-- Which bytes from a position on stand for a value. -/
abbrev Grammar (α : Type) := Nat → List UInt8 → α → Prop

namespace Grammar

def andThen (G : Grammar α) (H : α → Grammar β) : Grammar β := fun n bytes b ↦
  ∃ first second a, bytes = first ++ second ∧ G n first a ∧ H a (n + first.length) second b

inductive Many (G : Grammar α) : Grammar (List α)
  | nil (n : Nat) : Many G n [] []
  | cons {n : Nat} {first others : List UInt8} {a : α} {as : List α} :
      G n first a → Many G (n + first.length) others as → Many G n (first ++ others) (a :: as)

/-- Values that are written the same at all places. -/
theorem many_written_iff (f : α → List UInt8) {n : Nat} {bytes : List UInt8} {as : List α} :
    Many (fun _ taken a ↦ taken = f a) n bytes as ↔ bytes = as.flatMap f := by
  constructor
  · intro h
    induction h with
    | nil n => rfl
    | cons hfirst _ ih => rw [hfirst, ih, List.flatMap_cons]
  · rintro rfl
    induction as generalizing n with
    | nil => exact .nil n
    | cons a as ih => exact .cons rfl ih

theorem Many.nil_iff {G : Grammar α} (hG : ∀ n bytes a, G n bytes a → bytes ≠ []) {n : Nat}
    {as : List α} : Many G n [] as ↔ as = [] := by
  constructor
  · intro h
    generalize hb : ([] : List UInt8) = bytes at h
    cases h with
    | nil => rfl
    | cons hfirst _ => exact absurd (List.append_eq_nil_iff.1 hb.symm).1 (hG _ _ _ hfirst)
  · rintro rfl
    exact .nil n

/-- No byte string starts with the bytes of two values. -/
def Unambiguous (G : Grammar α) : Prop :=
  ∀ ⦃n : Nat⦄ ⦃first other rest behind : List UInt8⦄ ⦃a b : α⦄,
    G n first a → G n other b → first ++ rest = other ++ behind → first = other ∧ a = b

namespace Many

variable {G : Grammar α} {n : Nat} {front behind : List UInt8} {as bs : List α}

theorem append (h : Many G n front as) (h' : Many G (n + front.length) behind bs) :
    Many G n (front ++ behind) (as ++ bs) := by
  induction h with
  | nil n => exact h'
  | cons hfirst _ ih =>
    rw [List.length_append, ← Nat.add_assoc] at h'
    rw [List.append_assoc]
    exact .cons hfirst (ih h')

theorem append_iff (hG : G.Unambiguous) (hne : ∀ n bytes a, G n bytes a → bytes ≠ [])
    (h : Many G n front as) :
    Many G n (front ++ behind) bs ↔ ∃ cs, Many G (n + front.length) behind cs ∧ bs = as ++ cs := by
  constructor
  · intro h'
    induction h generalizing bs with
    | nil n => exact ⟨bs, h', rfl⟩
    | @cons n first others a as hfirst _ ih =>
      rw [List.append_assoc] at h'
      generalize hb : first ++ (others ++ behind) = bytes at h'
      cases h' with
      | nil => exact absurd (List.append_eq_nil_iff.1 hb).1 (hne _ _ _ hfirst)
      | @cons _ other rest b bs hother hrest =>
        obtain ⟨rfl, rfl⟩ := hG hfirst hother hb
        rw [← List.append_cancel_left hb] at hrest
        obtain ⟨cs, hcs, rfl⟩ := ih hrest
        rw [List.length_append, ← Nat.add_assoc]
        exact ⟨cs, hcs, rfl⟩
  · rintro ⟨cs, hcs, rfl⟩
    exact h.append hcs

end Many

end Grammar

open Cursor Grammar

namespace Reader

theorem remaining_between (front behind : List UInt8) :
    (between front behind).remaining = behind.length := by
  simp [Cursor.remaining, between]

theorem hasMore_between (front behind : List UInt8) :
    (between front behind).hasMore = !behind.isEmpty := by
  cases behind <;> simp [Cursor.hasMore, between]

/-- A reader takes the bytes that a grammar relates to its value, and succeeds on no others. -/
structure Accepts (r : Reader α) (G : Grammar α) : Prop where
  sound {front behind : List UInt8} {a : α} {c : Cursor} :
    r (between front behind) = (.ok a, c) →
      ∃ taken rest, behind = taken ++ rest ∧ c = between (front ++ taken) rest ∧
        G front.length taken a
  complete {front taken : List UInt8} {a : α} (rest : List UInt8) :
    G front.length taken a →
      r (between front (taken ++ rest)) = (.ok a, between (front ++ taken) rest)

namespace Accepts

variable {r : Reader α} {G : Grammar α}

theorem congr {H : Grammar α} (hr : r.Accepts G) (h : ∀ n bytes a, G n bytes a ↔ H n bytes a) :
    r.Accepts H := by
  have hGH : G = H := funext fun n ↦ funext fun bytes ↦ funext fun a ↦ propext (h n bytes a)
  exact hGH ▸ hr

theorem pure (a : α) : (pure a : Reader α).Accepts fun _ bytes x ↦ bytes = [] ∧ x = a where
  sound {front behind x c} h := by
    cases h
    exact ⟨[], behind, rfl, by simp, rfl, rfl⟩
  complete rest h := by
    obtain ⟨rfl, rfl⟩ := h
    simp

theorem throw (e : Error) : (throw e : Reader α).Accepts fun _ _ _ ↦ False where
  sound h := by cases h
  complete _ h := h.elim

theorem bind {f : α → Reader β} {H : α → Grammar β} (hr : r.Accepts G)
    (hf : ∀ a, (f a).Accepts (H a)) : (r >>= f).Accepts (G.andThen H) where
  sound {front behind b c} h := by
    rw [Attempt.bind_apply] at h
    split at h
    · next a t hra =>
      obtain ⟨first, rest, rfl, rfl, hG⟩ := hr.sound hra
      obtain ⟨second, rest, rfl, rfl, hH⟩ := (hf a).sound h
      rw [List.length_append] at hH
      exact ⟨first ++ second, rest, by simp, by simp, first, second, a, rfl, hG, hH⟩
    · cases h
  complete {front taken b} rest h := by
    obtain ⟨first, second, a, rfl, hG, hH⟩ := h
    rw [← List.length_append] at hH
    have hra := hr.complete (second ++ rest) hG
    rw [List.append_assoc, Attempt.bind_of_ok hra, (hf a).complete rest hH, List.append_assoc]

theorem eq_ok_iff (hr : r.Accepts G) {front behind : List UInt8} {a : α} {c : Cursor} :
    r (between front behind) = (.ok a, c) ↔ ∃ taken rest, G front.length taken a ∧
      behind = taken ++ rest ∧ c = between (front ++ taken) rest := by
  constructor
  · intro h
    obtain ⟨taken, rest, hsplit, hc, hG⟩ := hr.sound h
    exact ⟨taken, rest, hG, hsplit, hc⟩
  · rintro ⟨taken, rest, hG, rfl, rfl⟩
    exact hr.complete rest hG

theorem unambiguous (hr : r.Accepts G) : G.Unambiguous := by
  intro n first other rest behind a b hfirst hother hsame
  obtain ⟨front, rfl⟩ : ∃ front : List UInt8, front.length = n :=
    ⟨List.replicate n 0, List.length_replicate⟩
  have hread := hr.complete rest hfirst
  have hagain := hr.complete behind hother
  rw [hsame, hagain, Prod.mk.injEq, Except.ok.injEq] at hread
  have hpos := congrArg Cursor.pos hread.2
  simp only [between, List.length_append] at hpos
  exact ⟨List.append_inj_left hsame (by omega), hread.1.symm⟩

end Accepts

theorem position_accepts : position.Accepts fun n bytes p ↦ bytes = [] ∧ p = n where
  sound {front behind p c} h := by
    cases h
    exact ⟨[], behind, rfl, by simp, rfl, rfl⟩
  complete rest h := by
    obtain ⟨rfl, rfl⟩ := h
    simp [position, between]

theorem byte_accepts : byte.Accepts fun _ bytes b ↦ bytes = [b] where
  sound {front behind b c} h := by
    cases behind with
    | nil => simp [byte, between] at h
    | cons d rest =>
      have hd : byte (between front (d :: rest)) = (.ok d, between (front ++ [d]) rest) := by
        simp [byte, between]
      rw [hd] at h
      cases h
      exact ⟨[b], rest, rfl, rfl, rfl⟩
  complete {front taken b} rest h := by
    subst h
    simp [byte, between]

theorem bytes_accepts (count : Nat) :
    (bytes count).Accepts fun _ taken data ↦ taken.length = count ∧ data = taken.toArray where
  sound {front behind data c} h := by
    by_cases hle : count ≤ behind.length
    · have hb : bytes count (between front behind) = (.ok (behind.take count).toArray,
          between (front ++ behind.take count) (behind.drop count)) := by
        simp [bytes, between, Bytes.slice, hle]
      rw [hb] at h
      cases h
      exact ⟨behind.take count, behind.drop count, by simp, rfl, by simp [hle], rfl⟩
    · simp [bytes, between, Bytes.slice, hle] at h
  complete {front taken data} rest h := by
    obtain ⟨rfl, rfl⟩ := h
    simp [bytes, between, Bytes.slice]

theorem word_accepts (width : Nat) : (word width).Accepts fun _ taken n ↦
    n < 1 <<< (8 * width) ∧ taken = toLittleEndian width n := by
  refine ((bytes_accepts width).bind fun slice ↦ .pure (littleEndian slice.toList)).congr ?_
  intro n taken value
  constructor
  · rintro ⟨first, second, data, rfl, ⟨rfl, rfl⟩, rfl, rfl⟩
    exact ⟨littleEndian_lt first, by simpa using (toLittleEndian_littleEndian first).symm⟩
  · rintro ⟨hlt, rfl⟩
    refine ⟨toLittleEndian width value, [], (toLittleEndian width value).toArray, by simp,
      ⟨length_toLittleEndian width value, rfl⟩, rfl, ?_⟩
    rw [List.toList_toArray, littleEndian_toLittleEndian, Nat.mod_eq_of_lt hlt]

theorem word_pure_accepts (width : Nat) (f : Nat → α) :
    Accepts (do let n ← word width
                pure (f n)) fun _ taken a ↦
      ∃ n < 1 <<< (8 * width), taken = toLittleEndian width n ∧ a = f n := by
  refine ((word_accepts width).bind fun n ↦ .pure (f n)).congr fun _ taken a ↦ ⟨?_, ?_⟩
  · rintro ⟨first, second, n, rfl, ⟨hlt, rfl⟩, rfl, rfl⟩
    exact ⟨n, hlt, by simp, rfl⟩
  · rintro ⟨n, hlt, rfl, rfl⟩
    exact ⟨toLittleEndian width n, [], n, by simp, ⟨hlt, rfl⟩, rfl, rfl⟩

theorem times_accepts {r : Reader α} {G : Grammar α} (hr : r.Accepts G) (count : Nat) :
    Accepts (Attempt.times count r) fun n bytes as ↦ as.length = count ∧ Many G n bytes as := by
  induction count with
  | zero =>
    refine (Accepts.pure []).congr fun n bytes as ↦ ⟨?_, ?_⟩
    · rintro ⟨rfl, rfl⟩
      exact ⟨rfl, .nil n⟩
    · rintro ⟨hlen, hmany⟩
      cases hmany with
      | nil => exact ⟨rfl, rfl⟩
      | cons _ _ => cases hlen
  | succ count ih =>
    refine (hr.bind fun a ↦ ih.bind fun rest ↦ .pure (a :: rest)).congr fun n bytes as ↦ ⟨?_, ?_⟩
    · rintro ⟨first, _, a, rfl, hG, others, _, as, rfl, ⟨hlen, hmany⟩, rfl, rfl⟩
      rw [List.append_nil]
      exact ⟨by simp [hlen], .cons hG hmany⟩
    · rintro ⟨hlen, hmany⟩
      cases hmany with
      | nil => cases hlen
      | @cons _ first others a as hG hmany =>
        exact ⟨first, others, a, rfl, hG, others, [], as, by simp, ⟨by simpa using hlen, hmany⟩,
          rfl, rfl⟩

theorem checked_accepts {r : Reader α} {G : Grammar α} (hr : r.Accepts G) (e : Error) (least : Nat)
    (hG : ∀ n bytes a, G n bytes a → least ≤ bytes.length) :
    Accepts (do if (← remaining) < least then throw e
                r) G := by
  have hrun (front behind : List UInt8) (hle : least ≤ behind.length) :
      (do if (← remaining) < least then throw e
          r : Reader α) (between front behind) = r (between front behind) := by
    simp [remaining, remaining_between, Nat.not_lt.2 hle]
  constructor
  · intro front behind a c h
    by_cases hle : least ≤ behind.length
    · exact hr.sound ((hrun front behind hle).symm.trans h)
    · simp [remaining, remaining_between, Nat.not_le.1 hle] at h
  · intro front taken a rest h
    have hle : least ≤ (taken ++ rest).length := by
      rw [List.length_append]
      exact Nat.le_trans (hG _ _ _ h) (Nat.le_add_right _ _)
    exact (hrun front (taken ++ rest) hle).trans (hr.complete rest h)

theorem untilEnd_cons (r : Reader α) (fuel : Nat) (front : List UInt8) (b : UInt8)
    (bs : List UInt8) :
    untilEnd r (fuel + 1) (between front (b :: bs))
      = (r >>= fun a ↦ untilEnd r fuel >>= fun others ↦ pure (a :: others))
          (between front (b :: bs)) := by
  simp [untilEnd, hasMore, hasMore_between]

theorem untilEnd_nil (r : Reader α) (fuel : Nat) (front : List UInt8) :
    untilEnd r fuel (between front []) = (.ok [], between front []) := by
  cases fuel <;> simp [untilEnd, hasMore, hasMore_between]

/-- What is read until the end are the values that the bytes stand for, where a value takes at least
one byte and there is a round for each byte. -/
theorem untilEnd_eq_ok_iff {r : Reader α} {G : Grammar α} (hr : r.Accepts G)
    (hG : ∀ n bytes a, G n bytes a → bytes ≠ []) {fuel : Nat} {front behind : List UInt8}
    (hfuel : behind.length ≤ fuel) {as : List α} {c : Cursor} :
    untilEnd r fuel (between front behind) = (.ok as, c) ↔
      Many G front.length behind as ∧ c = between (front ++ behind) [] := by
  induction fuel generalizing front behind as c with
  | zero =>
    obtain rfl : behind = [] := List.length_eq_zero_iff.1 (Nat.le_zero.1 hfuel)
    rw [Many.nil_iff hG, untilEnd_nil, List.append_nil, Prod.mk.injEq, Except.ok.injEq]
    exact and_congr eq_comm eq_comm
  | succ fuel ih =>
    have hround (a : α) (taken rest : List UInt8) (hfirst : G front.length taken a)
        (hlen : (taken ++ rest).length ≤ fuel + 1) (others : List α) (u : Cursor) :
        untilEnd r fuel (between (front ++ taken) rest) = (.ok others, u) ↔
          Many G (front.length + taken.length) rest others ∧
            u = between (front ++ (taken ++ rest)) [] := by
      have htaken := List.length_pos_iff.2 (hG _ _ _ hfirst)
      rw [List.length_append] at hlen
      rw [ih (by omega), List.length_append, List.append_assoc]
    cases behind with
    | nil =>
      rw [Many.nil_iff hG, untilEnd_nil, List.append_nil, Prod.mk.injEq, Except.ok.injEq]
      exact and_congr eq_comm eq_comm
    | cons b bs =>
      rw [untilEnd_cons, Attempt.bind_eq_ok_iff]
      constructor
      · rintro ⟨a, _, hra, h⟩
        obtain ⟨taken, rest, hsplit, rfl, hfirst⟩ := hr.sound hra
        obtain ⟨others, u, hothers, h⟩ := Attempt.bind_eq_ok_iff.1 h
        cases h
        obtain ⟨hmany, rfl⟩ := (hround a taken rest hfirst (hsplit ▸ hfuel) others _).1 hothers
        rw [hsplit]
        exact ⟨.cons hfirst hmany, rfl⟩
      · rintro ⟨h, rfl⟩
        generalize hb : b :: bs = behind at h hfuel ⊢
        cases h with
        | nil => cases hb
        | @cons _ taken rest a others hfirst hmany =>
          refine ⟨a, _, hr.complete rest hfirst, Attempt.bind_eq_ok_iff.2 ⟨others, _, ?_, rfl⟩⟩
          exact (hround a taken rest hfirst hfuel others _).2 ⟨hmany, rfl⟩

theorem many_onBytes_eq_ok_iff {r : Reader α} {G : Grammar α} (hr : r.Accepts G)
    (hG : ∀ n bytes a, G n bytes a → bytes ≠ []) {data : Bytes} {as : List α} :
    (many r).onBytes data = .ok as ↔ Many G 0 data.toList as := by
  have hrun : (many r).onBytes data
      = (untilEnd r data.toList.length (between [] data.toList)).1 := by
    simp [many, onBytes, Attempt.run, remaining, Cursor.remaining, between]
  have hiff := @untilEnd_eq_ok_iff α r G hr hG data.toList.length [] data.toList (Nat.le_refl _) as
  rw [hrun]
  constructor
  · intro h
    exact (hiff.1 (Prod.ext h rfl)).1
  · intro h
    exact congrArg Prod.fst (hiff.2 ⟨h, rfl⟩)

end Reader

end CliMetadata
