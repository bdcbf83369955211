import CliMetadata.Attempt
import CliMetadata.Page
import CliMetadata.Proofs.Text.Blank

namespace CliMetadata

namespace Numeral

theorem decimalValue?_toDigits (n : Nat) : decimalValue? (Nat.toDigits 10 n) = some n := by
  have hvalue (cs : List Char) (start : Nat) (hcs : ∀ c ∈ cs, c.isDigit = true) :
      cs.foldlM (fun n c ↦ if c.isDigit then some (n * 10 + (c.toNat - 48)) else none) start
        = some (Nat.ofDigitChars 10 cs start) := by
    induction cs generalizing start with
    | nil => rw [List.foldlM_nil, Nat.ofDigitChars_nil, Option.pure_def]
    | cons c cs ih =>
      rw [List.foldlM_cons, if_pos (hcs c List.mem_cons_self), Option.bind_eq_bind,
        Option.bind_some, ih _ fun d hd ↦ hcs d (List.mem_cons_of_mem _ hd),
        Nat.ofDigitChars_cons, Nat.mul_comm]
      rfl
  have hdigits (c : Char) (hc : c ∈ Nat.toDigits 10 n) : c.isDigit = true :=
    Nat.isDigit_of_mem_toDigits (by decide) (by decide) hc
  rw [decimalValue?, hvalue _ 0 hdigits, Nat.ofDigitChars_ten_toDigits]

theorem decimal?_toString (bits n : Nat) :
    decimal? bits (toString n) = if n < 1 <<< bits then some n else none := by
  have hplus : withoutPlus (Nat.toDigits 10 n) = Nat.toDigits 10 n := by
    unfold withoutPlus
    split
    · next rest heq =>
      have hdigit : '+'.isDigit = true :=
        Nat.isDigit_of_mem_toDigits (by decide) (by decide) (heq ▸ List.mem_cons_self)
      cases hdigit
    · rfl
  rw [Nat.toString_eq_ofList_toDigits, decimal?_ofList Nat.toDigits_ne_nil hplus,
    decimalValue?_toDigits]
  simp only [Option.filter_some, decide_eq_true_eq]

end Numeral

theorem isBlank_of_isDigit {c : Char} (h : c.isDigit = true) : isBlank c = false := by
  have hrange : 48 ≤ c.toNat ∧ c.toNat ≤ 57 := by
    rw [Char.isDigit, Bool.and_eq_true, decide_eq_true_iff, decide_eq_true_iff] at h
    exact h
  exact isBlank_of_toNat (by omega) (by omega)

theorem trimmed_toString (n : Nat) : trimmed (toString n) = toString n := by
  have hdigits (c : Char) (hc : c ∈ (toString n).toList) : isBlank c = false := by
    rw [Nat.toString_eq_ofList_toDigits, String.toList_ofList] at hc
    exact isBlank_of_isDigit (Nat.isDigit_of_mem_toDigits (by decide) (by decide) hc)
  exact trimmed_eq_self (fun c hc ↦ hdigits c (List.mem_of_head? hc))
    fun c hc ↦ hdigits c (List.mem_of_getLast? hc)

theorem Config.defaultPageSize_pos {config : Config} (h : config.validate = .ok ()) :
    0 < config.defaultPageSize := by
  rw [validate] at h
  split at h
  · cases h
  · next hsizes => exact Nat.pos_of_ne_zero fun hzero ↦ hsizes (.inl hzero)

namespace Window

theorem readCursor_toString (n : Nat) : readCursor (toString n) =
    if n < 0x10000000000000000 then .ok n
    else .error (.invalidArgument (.pageCursor (toString n))) := by
  have hne : toString n ≠ "" := Nat.repr_ne_empty
  have hbits : 1 <<< 64 = 0x10000000000000000 := rfl
  rw [readCursor, trimmed_toString, if_neg hne, Numeral.decimal?_toString, hbits]
  by_cases hn : n < 0x10000000000000000
  · rw [if_pos hn, if_pos hn]
  · rw [if_neg hn, if_neg hn]

/-- A cursor in front of the results behind the first `offset`; without a cursor these are all. -/
def StartsAt (cursor : Option String) (offset : Nat) : Prop :=
  cursor = none ∧ offset = 0 ∨ cursor = some (toString offset)

variable {config : Config} {limit offset : Nat} {cursor : Option String}

/-- The window of a request for so many results has room for one at least. Only cursors that take
more than 64 bits cannot be read. -/
theorem ofRequest_startsAt (config : Config) (hlimit : 0 < limit) (h : StartsAt cursor offset) :
    (∃ v, ofRequest config ⟨some limit, cursor⟩ = .ok v ∧ v.offset = offset ∧ 0 < v.limit) ∨
      0x10000000000000000 ≤ offset ∧ ∃ e, ofRequest config ⟨some limit, cursor⟩ = .error e := by
  rw [ofRequest, Option.getD_some, if_neg (Nat.pos_iff_ne_zero.1 hlimit)]
  have hroom (size : Nat) : 0 < min limit (max 1 size) := by omega
  obtain ⟨rfl, rfl⟩ | rfl := h
  · exact .inl ⟨_, rfl, rfl, hroom _⟩
  · rw [Option.elim_some, readCursor_toString]
    by_cases hoffset : offset < 0x10000000000000000
    · rw [if_pos hoffset]
      exact .inl ⟨_, rfl, rfl, hroom _⟩
    · rw [if_neg hoffset]
      exact .inr ⟨Nat.le_of_not_lt hoffset, _, rfl⟩

theorem limit_le_of_ofRequest {request : PageRequest} {v : Window}
    (h : ofRequest config request = .ok v) : v.limit ≤ Config.pageSizeCeiling := by
  rw [ofRequest] at h
  split at h
  · cases h
  · obtain ⟨_, _, hv⟩ := Attempt.except_bind_eq_ok_iff.1 h
    cases hv
    simp only [Config.pageSizeCeiling]
    omega

theorem ofRequest_valid (hconfig : config.validate = .ok ()) {limit : Option Nat}
    (hlimit : limit ≠ some 0) (h : StartsAt cursor offset)
    (hoffset : offset < 0x10000000000000000) :
    ∃ v, ofRequest config ⟨limit, cursor⟩ = .ok v ∧ v.offset = offset ∧ 0 < v.limit ∧
      v.limit ≤ Config.pageSizeCeiling := by
  have hroom : 0 < limit.getD config.defaultPageSize := by
    have hdefault := Config.defaultPageSize_pos hconfig
    cases limit with
    | none => exact hdefault
    | some n => exact Nat.pos_of_ne_zero fun hn ↦ hlimit (congrArg some hn)
  obtain ⟨v, hv, hstart, hpos⟩ | ⟨hlarge, _⟩ := ofRequest_startsAt config hroom h
  · exact ⟨v, hv, hstart, hpos, limit_le_of_ofRequest hv⟩
  · omega

end Window

namespace Page

variable {α : Type} {found results : List α} {v : Window} {offset : Nat} {page : Page α}
  {pages : List (Page α)}

/-- A page that goes on with some results behind the first `offset`. Its cursor stands behind its
items, and it has no more only if it holds all that is left. -/
structure Continues (results : List α) (offset : Nat) (page : Page α) : Prop where
  items : ∃ later, results.drop offset = page.items ++ later
  hasMore_iff : page.hasMore = true ↔ page.nextCursor.isSome = true
  cursor : ∀ c, page.nextCursor = some c → c = toString (offset + page.items.length)
  all : page.hasMore = false → page.items = results.drop offset

theorem hasMore_complete_iff :
    (complete results v).hasMore = true ↔ v.offset + v.limit < results.length :=
  decide_eq_true_iff

theorem complete_continues (results : List α) (v : Window) :
    (complete results v).Continues results v.offset := by
  refine ⟨⟨(results.drop v.offset).drop v.limit, (List.take_append_drop _ _).symm⟩, ?_, ?_, ?_⟩
  · simp only [complete]
    split <;> simp_all
  · intro c hc
    simp only [complete] at hc ⊢
    split at hc
    · next hmore =>
      cases hc
      rw [decide_eq_true_iff, Window.stop] at hmore
      have hlength : (v.view results).length = v.limit := by
        rw [Window.view, List.length_take, List.length_drop]
        omega
      rw [hlength, Window.stop]
    · cases hc
  · intro hmore
    have hstop := mt hasMore_complete_iff.2 (ne_true_of_eq_false hmore)
    rw [complete, Window.view, List.take_of_length_le]
    rw [List.length_drop]
    omega

theorem partway_continues (hfound : ∃ later, results = found ++ later) (v : Window) :
    (partway found v).Continues results v.offset := by
  obtain ⟨later, rfl⟩ := hfound
  refine ⟨?_, by simp [partway], ?_, by simp [partway]⟩
  · refine ⟨(found.drop v.offset).drop v.limit ++ later.drop (v.offset - found.length), ?_⟩
    simp only [partway, Window.view]
    rw [← List.append_assoc, List.take_append_drop, List.drop_append]
  · intro c hc
    cases hc
    rfl

theorem items_partway_ne_nil (hv : 0 < v.limit) (hfound : v.offset < found.length) :
    0 < (partway found v).items.length := by
  simp only [partway, Window.view, List.length_take, List.length_drop]
  omega

theorem items_complete_ne_nil (hv : 0 < v.limit) (hmore : (complete results v).hasMore = true) :
    0 < (complete results v).items.length := by
  have hstop := hasMore_complete_iff.1 hmore
  simp only [complete, Window.view, List.length_take, List.length_drop]
  omega

namespace Continues

theorem length_le (h : page.Continues results offset) :
    page.items.length ≤ results.length - offset := by
  obtain ⟨later, hlater⟩ := h.items
  have hlength := congrArg List.length hlater
  rw [List.length_drop, List.length_append] at hlength
  omega

theorem drop_items (h : page.Continues results offset) :
    results.drop offset = page.items ++ results.drop (offset + page.items.length) := by
  obtain ⟨later, hlater⟩ := h.items
  rw [← List.drop_drop, hlater, List.drop_left]

theorem startsAt_next (h : page.Continues results offset) (hmore : page.hasMore = true) :
    Window.StartsAt page.nextCursor (offset + page.items.length) := by
  obtain ⟨cursor, hcursor⟩ := Option.isSome_iff_exists.1 (h.hasMore_iff.1 hmore)
  right
  rw [hcursor, h.cursor cursor hcursor]

end Continues

def Finished (pages : List (Page α)) : Prop := ∃ page ∈ pages, page.hasMore = false

/-- Pages that hold the first of some results, and all of them once a page has no more. -/
structure Covers (results : List α) (pages : List (Page α)) : Prop where
  hasMore_iff : ∀ page ∈ pages, page.hasMore = true ↔ page.nextCursor.isSome = true
  items : ∃ later, results = pages.flatMap (·.items) ++ later
  all : Finished pages → pages.flatMap (·.items) = results

theorem covers_nil (results : List α) : Covers results [] where
  hasMore_iff _ h := by cases h
  items := ⟨results, rfl⟩
  all h := by
    obtain ⟨_, h, _⟩ := h
    cases h

theorem Continues.covers (h : page.Continues results offset) (hmore : page.hasMore = false) :
    Covers (results.drop offset) [page] where
  hasMore_iff p hp := by
    rw [List.mem_singleton.1 hp]
    exact h.hasMore_iff
  items := ⟨[], by simp [h.all hmore]⟩
  all _ := by simp [h.all hmore]

theorem finished_cons (hmore : page.hasMore = true) :
    Finished (page :: pages) ↔ Finished pages := by
  constructor
  · rintro ⟨p, hp, hlast⟩
    obtain rfl | hp := List.mem_cons.1 hp
    · exact absurd (hlast.symm.trans hmore) (by decide)
    · exact ⟨p, hp, hlast⟩
  · rintro ⟨p, hp, hlast⟩
    exact ⟨p, List.mem_cons_of_mem _ hp, hlast⟩

/-- Pages behind a page that has more. -/
theorem Continues.covers_cons (h : page.Continues results offset) (hmore : page.hasMore = true)
    (hpages : Covers (results.drop (offset + page.items.length)) pages) :
    Covers (results.drop offset) (page :: pages) where
  hasMore_iff p hp := by
    obtain rfl | hp := List.mem_cons.1 hp
    · exact h.hasMore_iff
    · exact hpages.hasMore_iff p hp
  items := by
    obtain ⟨later, hlater⟩ := hpages.items
    exact ⟨later, by rw [h.drop_items, hlater, List.flatMap_cons, List.append_assoc]⟩
  all hfinished := by
    rw [List.flatMap_cons, hpages.all ((finished_cons hmore).1 hfinished), ← h.drop_items]

/-- Pages of results that are all known, from behind the first `offset` on, as they come from up to
`count` requests. Only where nothing is left, a page is empty. -/
structure Turned (results : List α) (offset count : Nat) (pages : List (Page α)) : Prop where
  covers : Covers (results.drop offset) pages
  total : ∀ page ∈ pages, page.totalCount = results.length
  length_le : ∀ page ∈ pages, page.items.length ≤ Config.pageSizeCeiling
  length_pos : offset < results.length → ∀ page ∈ pages, 0 < page.items.length
  single : results.length ≤ offset → pages.length ≤ 1
  finished : 0 < count → results.length ≤ offset + count → Finished pages

theorem turned_nil (results : List α) (offset : Nat) : Turned results offset 0 [] where
  covers := covers_nil _
  total _ h := by cases h
  length_le _ h := by cases h
  length_pos _ _ h := by cases h
  single _ := Nat.zero_le 1
  finished h := by cases h

theorem length_complete_le (hv : v.limit ≤ Config.pageSizeCeiling) :
    (complete results v).items.length ≤ Config.pageSizeCeiling := by
  rw [complete, Window.view, List.length_take]
  exact Nat.le_trans (Nat.min_le_left _ _) hv

theorem length_complete_pos (hv : 0 < v.limit) (hoffset : v.offset < results.length) :
    0 < (complete results v).items.length := by
  simp only [complete, Window.view, List.length_take, List.length_drop]
  omega

variable {count : Nat}

theorem turned_last (hpos : 0 < v.limit) (hle : v.limit ≤ Config.pageSizeCeiling)
    (hmore : (complete results v).hasMore = false) :
    Turned results v.offset (count + 1) [complete results v] where
  covers := (complete_continues results v).covers hmore
  total page hpage := by rw [List.mem_singleton.1 hpage]; rfl
  length_le page hpage := by
    rw [List.mem_singleton.1 hpage]
    exact length_complete_le hle
  length_pos hoffset page hpage := by
    rw [List.mem_singleton.1 hpage]
    exact length_complete_pos hpos hoffset
  single _ := Nat.le_refl 1
  finished _ _ := ⟨_, List.mem_singleton_self _, hmore⟩

theorem turned_cons (hpos : 0 < v.limit) (hle : v.limit ≤ Config.pageSizeCeiling)
    (hmore : (complete results v).hasMore = true)
    (h : Turned results (v.offset + (complete results v).items.length) count pages) :
    Turned results v.offset (count + 1) (complete results v :: pages) := by
  have hstop := hasMore_complete_iff.1 hmore
  have hitems : (complete results v).items.length = v.limit := by
    simp only [complete, Window.view, List.length_take, List.length_drop]
    omega
  rw [hitems] at h
  refine ⟨?_, ?_, ?_, ?_, fun hall ↦ by omega, fun _ hall ↦ ?_⟩
  · exact (complete_continues results v).covers_cons hmore (hitems ▸ h.covers)
  · intro page hpage
    obtain rfl | hpage := List.mem_cons.1 hpage
    · rfl
    · exact h.total page hpage
  · intro page hpage
    obtain rfl | hpage := List.mem_cons.1 hpage
    · exact length_complete_le hle
    · exact h.length_le page hpage
  · intro hoffset page hpage
    obtain rfl | hpage := List.mem_cons.1 hpage
    · exact length_complete_pos hpos hoffset
    · exact h.length_pos hstop page hpage
  · rw [finished_cons hmore]
    exact h.finished (by omega) (by omega)

theorem map_complete {β : Type} (f : α → β) (results : List α) (v : Window) :
    (complete results v).map f = complete (results.map f) v := by
  simp [complete, map, Window.view, List.map_take, List.map_drop]

end Page

end CliMetadata
