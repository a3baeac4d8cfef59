/-!
# Blanks

The characters of the Unicode property White_Space, and trimming by them.
-/

namespace Migration.Text

/-- The ranges of the property White_Space: first and last code point of each. -/
def blankRanges : List (Nat × Nat) :=
  [(0x09, 0x0D), (0x20, 0x20), (0x85, 0x85), (0xA0, 0xA0), (0x1680, 0x1680), (0x2000, 0x200A),
    (0x2028, 0x2029), (0x202F, 0x202F), (0x205F, 0x205F), (0x3000, 0x3000)]

/-- Membership in a list of ranges of code points, both ends included. -/
def inRanges (ranges : List (Nat × Nat)) (c : Char) : Bool :=
  ranges.any fun range => range.1 ≤ c.toNat && c.toNat ≤ range.2

def isBlank (c : Char) : Bool :=
  inRanges blankRanges c

/-- No character between the space and the next line character is blank. -/
theorem isBlank_eq_false {c : Char} (low : 32 < c.toNat) (high : c.toNat < 133) :
    isBlank c = false := by
  simp only [isBlank, inRanges, blankRanges, List.any_cons, List.any_nil, Bool.or_eq_false_iff,
    Bool.and_eq_false_iff, decide_eq_false_iff_not, and_true]
  omega

def trimStart (s : List Char) : List Char :=
  s.dropWhile isBlank

def trimEnd (s : List Char) : List Char :=
  (s.reverse.dropWhile isBlank).reverse

def trim (s : List Char) : List Char :=
  trimEnd (trimStart s)

theorem trimStart_eq_self {s : List Char} (begins : ∀ c ∈ s.head?, isBlank c = false) :
    trimStart s = s := by
  cases s with
  | nil => rfl
  | cons c s => simp [trimStart, begins c rfl]

theorem trimEnd_eq_self {s : List Char} (ends : ∀ c ∈ s.getLast?, isBlank c = false) :
    trimEnd s = s := by
  rw [List.getLast?_eq_head?_reverse] at ends
  have start := trimStart_eq_self ends
  rw [trimStart] at start
  rw [trimEnd, start, List.reverse_reverse]

theorem trim_of_not_isBlank {s : List Char} (solid : ∀ c ∈ s, isBlank c = false) :
    trim s = s := by
  rw [trim, trimStart_eq_self fun c first => solid c (List.mem_of_mem_head? first),
    trimEnd_eq_self fun c last => solid c (List.mem_of_mem_getLast? last)]

/-- A text without the blanks at its two ends. -/
def trimmed (s : String) : String :=
  String.ofList (trim s.toList)

example : trimmed "\u3000 a b\u0085\n" = "a b" := by decide

end Migration.Text
