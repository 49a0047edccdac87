/-! Sets of characters, given as sorted lists of inclusive code point ranges, and the first of them:
white space, which is dropped from the ends of texts. -/

namespace SeriesQuery.Text

/-- Membership of a code point in disjoint ranges listed in increasing order; the search stops at
the first range that lies above it. -/
def inRanges : List (Nat × Nat) → Nat → Bool
  | [], _ => false
  | (low, high) :: rest, n => if n < low then false else decide (n ≤ high) || inRanges rest n

/-- Code points with the property White_Space. -/
def blankRanges : List (Nat × Nat) :=
  [(0x9, 0xD), (0x20, 0x20), (0x85, 0x85), (0xA0, 0xA0), (0x1680, 0x1680), (0x2000, 0x200A),
   (0x2028, 0x2029), (0x202F, 0x202F), (0x205F, 0x205F), (0x3000, 0x3000)]

def isBlank (c : Char) : Bool :=
  inRanges blankRanges c.toNat

def trimmed (cs : List Char) : List Char :=
  ((cs.dropWhile isBlank).reverse.dropWhile isBlank).reverse

/-- Nothing but white space, or nothing at all. -/
def isBlankText (s : String) : Bool :=
  s.toList.all isBlank

variable {cs : List Char}

theorem trimmed_eq_self (h : ∀ c ∈ cs, isBlank c = false) : trimmed cs = cs := by
  have hdrop : ∀ ds : List Char, (∀ c ∈ ds, isBlank c = false) → ds.dropWhile isBlank = ds := by
    intro ds hds
    cases ds with
    | nil => rfl
    | cons d ds => exact List.dropWhile_cons_of_neg (by simp [hds d List.mem_cons_self])
  rw [trimmed, hdrop cs h, hdrop cs.reverse (by simpa using h), List.reverse_reverse]

theorem mem_trimmed_of_not_isBlank {c : Char} (h : c ∈ cs) (hc : isBlank c = false) :
    c ∈ trimmed cs := by
  have hdrop : ∀ ds : List Char, c ∈ ds → c ∈ ds.dropWhile isBlank := by
    intro ds hds
    rw [← List.takeWhile_append_dropWhile (p := isBlank) (l := ds)] at hds
    rcases List.mem_append.1 hds with hds | hds
    · have hall := List.all_eq_true.1 List.all_takeWhile c hds
      rw [hc] at hall
      cases hall
    · exact hds
  rw [trimmed, List.mem_reverse]
  exact hdrop _ (List.mem_reverse.2 (hdrop cs h))

theorem not_isBlank_of_isDigit {c : Char} (h : c.isDigit = true) : isBlank c = false := by
  have hdigits : ∀ n < 0x3A, 0x30 ≤ n → inRanges blankRanges n = false := by decide
  rw [Char.isDigit, Bool.and_eq_true, decide_eq_true_iff, decide_eq_true_iff] at h
  exact hdigits c.toNat (Nat.lt_succ_of_le h.2) h.1

end SeriesQuery.Text
