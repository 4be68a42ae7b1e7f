import Switchboard.Listing.Page

/-!
# Reading a listing page by page

A caller who follows the cursors of a listing gets it from the start of the first page to its end,
nothing twice and nothing left out (`walk_covers_listing`). Each page is a window of plain width
(`paginate_eq`), and the cursor of a page that is not the last leads to the position where the
window ends (`startOf_nextCursor`). This is where the listing has to be one of fewer than
2^64 items: a cursor carries no greater offset.

All numbers of a page are exact although a machine counts in words of 64 bits: `WordWindow.count`
comes to the same (`count_eq_paginate`).
-/

namespace Switchboard

theorem normalizeLimit_pos (limit : Nat) : 1 ≤ normalizeLimit limit := by
  unfold normalizeLimit defaultPageSize maxPageSize
  split <;> omega

theorem normalizeLimit_le (limit : Nat) : normalizeLimit limit ≤ maxPageSize := by
  unfold normalizeLimit defaultPageSize maxPageSize
  split <;> omega

variable {α : Type}

/-! ## One page -/

/-- The offset that a cursor stands for; without a cursor it is the start. -/
def cursorOffset (cursor : Option String) : Nat := (cursor.map Cursor.decode).getD 0

theorem cursorOffset_lt (cursor : Option String) : cursorOffset cursor < Decimal.wordBound := by
  cases cursor with
  | none => decide
  | some token => exact Cursor.decode_lt token

/-- Where in a listing the page of a cursor starts. -/
def startOf (items : List α) (cursor : Option String) : Nat :=
  min (cursorOffset cursor) items.length

theorem startOf_le (items : List α) (cursor : Option String) :
    startOf items cursor ≤ items.length := Nat.min_le_right _ _

/-- The window of a listing that starts at a position and is `width` items wide, or as wide as the
rest of the listing. -/
def window (items : List α) (start width : Nat) : Page α :=
  { items := (items.drop start).take width
    offset := start
    total := items.length
    hasMore := decide (start + width < items.length)
    remainingCount := items.length - (start + width)
    nextCursor :=
      if start + width < items.length then some (Cursor.encode (start + width)) else none }

theorem paginate_eq (items : List α) (cursor : Option String) (limit : Nat) :
    paginate items cursor limit = window items (startOf items cursor) (normalizeLimit limit) := by
  have hstart := startOf_le items cursor
  have hwindow : paginate items cursor limit =
      { items := (items.drop (startOf items cursor)).take
          (min (startOf items cursor + normalizeLimit limit) items.length - startOf items cursor)
        offset := startOf items cursor
        total := items.length
        hasMore :=
          decide (min (startOf items cursor + normalizeLimit limit) items.length < items.length)
        remainingCount :=
          items.length - min (startOf items cursor + normalizeLimit limit) items.length
        nextCursor :=
          if decide (min (startOf items cursor + normalizeLimit limit) items.length < items.length)
          then some (Cursor.encode (min (startOf items cursor + normalizeLimit limit) items.length))
          else none } := rfl
  rw [hwindow]
  rcases Nat.lt_or_ge (startOf items cursor + normalizeLimit limit) items.length with hmore | hlast
  · rw [Nat.min_eq_left (Nat.le_of_lt hmore), Nat.add_sub_cancel_left]
    simp [window]
  · have htake : (items.drop (startOf items cursor)).take (items.length - startOf items cursor) =
        (items.drop (startOf items cursor)).take (normalizeLimit limit) := by
      rw [List.take_of_length_le (by simp), List.take_of_length_le (by simp; omega)]
    rw [Nat.min_eq_right hlast, htake]
    simp [window, hlast]

section window

variable (items : List α) (start width : Nat)

theorem length_items_window :
    (window items start width).items.length = min width (items.length - start) := by
  simp [window]

theorem counts_window (h : start ≤ items.length) :
    (window items start width).offset + (window items start width).items.length +
      (window items start width).remainingCount = items.length := by
  rw [length_items_window]
  simp only [window]
  omega

theorem hasMore_window_iff_nextCursor :
    (window items start width).hasMore = true ↔
      (window items start width).nextCursor.isSome = true := by
  by_cases h : start + width < items.length <;> simp [window, h]

theorem hasMore_window_iff_remaining :
    (window items start width).hasMore = true ↔
      0 < (window items start width).remainingCount := by
  simp only [window, decide_eq_true_eq]
  omega

end window

theorem hasMore_paginate {items : List α} {cursor : Option String} {limit : Nat} :
    (paginate items cursor limit).hasMore = true ↔
      startOf items cursor + normalizeLimit limit < items.length := by
  rw [paginate_eq]
  exact decide_eq_true_iff

/-- The cursor of a page that is not the last leads to the end of its window. -/
theorem startOf_nextCursor {items : List α} {cursor : Option String} {limit : Nat}
    (hlen : items.length < Decimal.wordBound)
    (hmore : (paginate items cursor limit).hasMore = true) :
    startOf items (paginate items cursor limit).nextCursor =
      startOf items cursor + normalizeLimit limit := by
  have hlt := hasMore_paginate.mp hmore
  have hnext : (paginate items cursor limit).nextCursor =
      some (Cursor.encode (startOf items cursor + normalizeLimit limit)) := by
    rw [paginate_eq]
    exact if_pos hlt
  rw [hnext, startOf, cursorOffset, Option.map_some, Option.getD_some,
    Cursor.decode_encode (Nat.lt_trans hlt hlen)]
  exact Nat.min_eq_left (Nat.le_of_lt hlt)

/-! ## All pages -/

/-- The pages that a caller gets who starts with a cursor and goes on with the cursor of each page
until a page says that there are no more. -/
inductive Walk (items : List α) (limit : Nat) : Option String → List (Page α) → Prop
  | last {cursor : Option String} (hlast : (paginate items cursor limit).hasMore = false) :
    Walk items limit cursor [paginate items cursor limit]
  | more {cursor : Option String} {rest : List (Page α)}
      (hmore : (paginate items cursor limit).hasMore = true)
      (hrest : Walk items limit (paginate items cursor limit).nextCursor rest) :
    Walk items limit cursor (paginate items cursor limit :: rest)

namespace Walk

variable {items : List α} {limit : Nat} {cursor : Option String} {pages : List (Page α)}

theorem ne_nil (h : Walk items limit cursor pages) : pages ≠ [] := by
  cases h <;> simp

/-- There is at most one way to go on. -/
theorem unique {pages' : List (Page α)} (h : Walk items limit cursor pages)
    (h' : Walk items limit cursor pages') : pages' = pages := by
  induction h generalizing pages' with
  | last hlast =>
    cases h' with
    | last _ => rfl
    | more hmore _ => rw [hlast] at hmore; cases hmore
  | more hmore _ ih =>
    cases h' with
    | last hlast => rw [hlast] at hmore; cases hmore
    | more _ hrest => rw [ih hrest]

/-- There is a last page: a page that is not the last leaves less of the listing to come. -/
theorem exists_pages (hlen : items.length < Decimal.wordBound) (limit : Nat)
    (cursor : Option String) : ∃ pages, Walk items limit cursor pages := by
  induction hleft : items.length - startOf items cursor using Nat.strongRecOn
    generalizing cursor with
  | ind left ih =>
    cases hmore : (paginate items cursor limit).hasMore with
    | false => exact ⟨_, .last hmore⟩
    | true =>
      have hlt := hasMore_paginate.mp hmore
      have hnext := startOf_nextCursor hlen hmore
      have hwidth := normalizeLimit_pos limit
      obtain ⟨rest, hrest⟩ := ih _ (by omega) (paginate items cursor limit).nextCursor rfl
      exact ⟨_, .more hmore hrest⟩

theorem exists_cursor_of_mem (h : Walk items limit cursor pages) {p : Page α} (hp : p ∈ pages) :
    ∃ cursor', p = paginate items cursor' limit := by
  induction h with
  | @last cursor _ => exact ⟨cursor, List.mem_singleton.mp hp⟩
  | @more cursor _ _ _ ih =>
    rcases List.mem_cons.mp hp with rfl | hrest
    · exact ⟨cursor, rfl⟩
    · exact ih hrest

/-- The pages one after the other are the listing from the start of the first one. -/
theorem flatMap_items (h : Walk items limit cursor pages)
    (hlen : items.length < Decimal.wordBound) :
    pages.flatMap (·.items) = items.drop (startOf items cursor) := by
  induction h with
  | @last cursor hlast =>
    have hend : ¬ startOf items cursor + normalizeLimit limit < items.length := fun hlt => by
      rw [hasMore_paginate.mpr hlt] at hlast
      cases hlast
    rw [List.flatMap_singleton, paginate_eq]
    exact List.take_of_length_le (by rw [List.length_drop]; omega)
  | more hmore _ ih =>
    rw [List.flatMap_cons, ih, startOf_nextCursor hlen hmore, paginate_eq, ← List.drop_drop]
    exact List.take_append_drop _ _

/-- There are as many pages as it takes to get through the rest of the listing, at least one. -/
theorem length_pages (h : Walk items limit cursor pages)
    (hlen : items.length < Decimal.wordBound) :
    pages.length =
      max 1 ((items.length - startOf items cursor + normalizeLimit limit - 1) /
        normalizeLimit limit) := by
  have hwidth := normalizeLimit_pos limit
  induction h with
  | @last cursor hlast =>
    have hend : ¬ startOf items cursor + normalizeLimit limit < items.length := fun hlt => by
      rw [hasMore_paginate.mpr hlt] at hlast
      cases hlast
    have hone : (items.length - startOf items cursor + normalizeLimit limit - 1) /
        normalizeLimit limit < 2 := Nat.div_lt_of_lt_mul (by omega)
    rw [List.length_singleton]
    omega
  | @more cursor rest hmore _ ih =>
    have hlt := hasMore_paginate.mp hmore
    rw [List.length_cons, ih, startOf_nextCursor hlen hmore]
    generalize normalizeLimit limit = width at hlt hwidth ⊢
    have hshift : items.length - startOf items cursor + width - 1 =
        items.length - (startOf items cursor + width) + width - 1 + width := by omega
    have hone : 1 ≤ (items.length - (startOf items cursor + width) + width - 1) / width :=
      (Nat.one_le_div_iff hwidth).mpr (by omega)
    rw [hshift, Nat.add_div_right _ hwidth]
    omega

/-- A page that is not the last is full. -/
theorem length_items_of_mem_dropLast (h : Walk items limit cursor pages) {p : Page α}
    (hp : p ∈ pages.dropLast) : p.items.length = normalizeLimit limit := by
  induction h with
  | last _ => cases hp
  | @more cursor rest hmore hrest ih =>
    rw [List.dropLast_cons_of_ne_nil hrest.ne_nil] at hp
    rcases List.mem_cons.mp hp with rfl | hlater
    · have hlt := hasMore_paginate.mp hmore
      rw [paginate_eq, length_items_window]
      omega
    · exact ih hlater

end Walk

/-! ## Words of 64 bits -/

theorem toNat_min (a b : UInt64) : (min a b).toNat = min a.toNat b.toNat := by
  have hmin : min a b = if a ≤ b then a else b := rfl
  rw [hmin]
  split
  · next h => exact (Nat.min_eq_left (UInt64.le_iff_toNat_le.mp h)).symm
  · next h =>
    have hlt : b.toNat < a.toNat := Nat.lt_of_not_le fun hle => h (UInt64.le_iff_toNat_le.mpr hle)
    exact (Nat.min_eq_right (Nat.le_of_lt hlt)).symm

theorem toNat_saturatingAdd (a b : UInt64) :
    (saturatingAdd a b).toNat = min (a.toNat + b.toNat) (Decimal.wordBound - 1) := by
  unfold saturatingAdd
  split
  · next h =>
    rw [UInt64.toNat_add]
    unfold Decimal.wordBound at *
    omega
  · next h =>
    have hmax : (0xFFFFFFFFFFFFFFFF : UInt64).toNat = Decimal.wordBound - 1 := rfl
    rw [hmax]
    omega

/-- Counting in words gives the numbers of the page: the sum has room where it matters, and no
difference is below zero. -/
theorem count_eq_paginate {items : List α} (hlen : items.length < Decimal.wordBound)
    (cursor : Option String) (limit : Nat) :
    let count := WordWindow.count (.ofNat (cursorOffset cursor)) (.ofNat (normalizeLimit limit))
      (.ofNat items.length)
    count.start.toNat = (paginate items cursor limit).offset ∧
      count.size.toNat = (paginate items cursor limit).items.length ∧
      count.rest.toNat = (paginate items cursor limit).remainingCount := by
  intro count
  have hword : ∀ n < Decimal.wordBound, (UInt64.ofNat n).toNat = n := fun n hn =>
    UInt64.toNat_ofNat_of_lt' hn
  have htotal : (UInt64.ofNat items.length).toNat = items.length := hword _ hlen
  have hwidth : (UInt64.ofNat (normalizeLimit limit)).toNat = normalizeLimit limit :=
    hword _ (Nat.lt_of_le_of_lt (normalizeLimit_le limit) (by decide))
  have hstart : count.start.toNat = startOf items cursor := by
    rw [show count.start = min (.ofNat (cursorOffset cursor)) (.ofNat items.length) from rfl,
      toNat_min, hword _ (cursorOffset_lt cursor), htotal]
    rfl
  generalize hstop : min (saturatingAdd count.start (.ofNat (normalizeLimit limit)))
    (.ofNat items.length) = stop
  have hstop_toNat : stop.toNat =
      min (startOf items cursor + normalizeLimit limit) items.length := by
    rw [← hstop, toNat_min, toNat_saturatingAdd, hstart, hwidth, htotal]
    omega
  have hsize : count.size = stop - count.start := by rw [← hstop]; rfl
  have hrest : count.rest = .ofNat items.length - stop := by rw [← hstop]; rfl
  have hle := startOf_le items cursor
  rw [hsize, hrest, UInt64.toNat_sub_of_le _ _ (UInt64.le_iff_toNat_le.mpr (by omega)),
    UInt64.toNat_sub_of_le _ _ (UInt64.le_iff_toNat_le.mpr (by omega)), hstart, hstop_toNat, htotal,
    paginate_eq, length_items_window]
  refine ⟨rfl, by omega, ?_⟩
  simp only [window]
  omega

/-! ## The whole -/

/-- A caller who follows the cursors comes to an end, after as many pages as the width of a page
goes into the rest of the listing; the pages together are the listing from the start of the first
one, all but the last are full, and each one says truly where it starts, how much is left and
whether there is more. All numbers are words of 64 bits, whatever the first cursor is. -/
theorem walk_covers_listing (items : List α) (limit : Nat) (cursor : Option String)
    (hlen : items.length < Decimal.wordBound) :
    let start := min ((cursor.map Cursor.decode).getD 0) items.length
    let width := normalizeLimit limit
    (1 ≤ width ∧ width ≤ 500) ∧
    (∃ pages, (∀ pages', Walk items limit cursor pages' ↔ pages' = pages) ∧
      pages.length = max 1 ((items.length - start + width - 1) / width) ∧
      pages.flatMap (·.items) = items.drop start ∧
      (∀ p ∈ pages.dropLast, p.items.length = width) ∧
      ∀ p ∈ pages,
        p.offset + p.items.length + p.remainingCount = p.total ∧ p.total = items.length ∧
        (p.hasMore = true ↔ p.nextCursor.isSome = true) ∧
        (p.hasMore = true ↔ 0 < p.remainingCount)) ∧
    ∀ cursor' : Option String,
      (cursor'.map Cursor.decode).getD 0 < Decimal.wordBound ∧
      let count := WordWindow.count (.ofNat ((cursor'.map Cursor.decode).getD 0)) (.ofNat width)
        (.ofNat items.length)
      count.start.toNat = (paginate items cursor' limit).offset ∧
        count.size.toNat = (paginate items cursor' limit).items.length ∧
        count.rest.toNat = (paginate items cursor' limit).remainingCount := by
  intro start width
  refine ⟨⟨normalizeLimit_pos limit, normalizeLimit_le limit⟩, ?_, fun cursor' =>
    ⟨cursorOffset_lt cursor', count_eq_paginate hlen cursor' limit⟩⟩
  obtain ⟨pages, hpages⟩ := Walk.exists_pages hlen limit cursor
  refine ⟨pages, fun pages' => ⟨hpages.unique, fun heq => heq ▸ hpages⟩, hpages.length_pages hlen,
    hpages.flatMap_items hlen, fun p => hpages.length_items_of_mem_dropLast, fun p hp => ?_⟩
  obtain ⟨cursor', rfl⟩ := hpages.exists_cursor_of_mem hp
  rw [paginate_eq]
  exact ⟨counts_window items _ _ (startOf_le items cursor'), rfl,
    hasMore_window_iff_nextCursor items _ _, hasMore_window_iff_remaining items _ _⟩

/-- Three pages after the first two items, the last of them with one item. -/
theorem walk_after_two_items :
    (List.range 9).length < Decimal.wordBound ∧
    ∃ pages, Walk (List.range 9) 3 (some "b2Zmc2V0OjI") pages ∧ pages.length = 3 ∧
      pages.flatMap (·.items) = [2, 3, 4, 5, 6, 7, 8] := by
  have hlen : (List.range 9).length < Decimal.wordBound := by decide
  have htoken : Cursor.decode "b2Zmc2V0OjI" = 2 := by decide
  obtain ⟨-, ⟨pages, hwalk, hcount, hitems, -⟩, -⟩ :=
    walk_covers_listing (List.range 9) 3 (some "b2Zmc2V0OjI") hlen
  simp only [Option.map_some, Option.getD_some, htoken] at hcount hitems
  exact ⟨hlen, pages, (hwalk pages).mpr rfl, hcount.trans (by decide), hitems.trans (by decide)⟩

end Switchboard
