/-
The part of Python that reads a text file: its lines, the words of a line,
numerals, and the search for digits behind a marker.
-/
import UfsTools.CLib

namespace PyText

open CLib

/-- `str.isspace` of one character -/
def isWhitespace (c : Char) : Bool :=
  let n := c.toNat
  (9 ≤ n ∧ n ≤ 13) ∨ (28 ≤ n ∧ n ≤ 32) ∨ n = 0x85 ∨ n = 0xa0 ∨ n = 0x1680 ∨
    (0x2000 ≤ n ∧ n ≤ 0x200a) ∨ n = 0x2028 ∨ n = 0x2029 ∨ n = 0x202f ∨
    n = 0x205f ∨ n = 0x3000

/-- `str.split()` -/
def split (text : Text) : List Text :=
  (text.splitOnP isWhitespace).filter (· ≠ [])

/-- The translation of line ends that `open` does in text mode. -/
def universalNewlines : Text → Text
  | [] => []
  | '\r' :: '\n' :: rest => '\n' :: universalNewlines rest
  | '\r' :: rest => '\n' :: universalNewlines rest
  | c :: rest => c :: universalNewlines rest

/-- The lines of a text, each with its line end. -/
def splitLines : Text → List Text
  | [] => []
  | c :: rest =>
      if c = '\n' then [c] :: splitLines rest
      else match splitLines rest with
        | [] => [[c]]
        | line :: lines => (c :: line) :: lines

/-- `readlines()` of a file that was opened in text mode -/
def readLines (text : Text) : List Text := splitLines (universalNewlines text)

/-- The characters for zero; the other digits of a script follow its zero. -/
def decimalZeros : List Nat :=
  [0x30, 0x660, 0x6f0, 0x7c0, 0x966, 0x9e6, 0xa66, 0xae6, 0xb66, 0xbe6, 0xc66,
   0xce6, 0xd66, 0xde6, 0xe50, 0xed0, 0xf20, 0x1040, 0x1090, 0x17e0, 0x1810,
   0x1946, 0x19d0, 0x1a80, 0x1a90, 0x1b50, 0x1bb0, 0x1c40, 0x1c50, 0xa620,
   0xa8d0, 0xa900, 0xa9d0, 0xa9f0, 0xaa50, 0xabf0, 0xff10, 0x104a0, 0x10d30,
   0x11066, 0x110f0, 0x11136, 0x111d0, 0x112f0, 0x11450, 0x114d0, 0x11650,
   0x116c0, 0x11730, 0x118e0, 0x11950, 0x11c50, 0x11d50, 0x11da0, 0x16a60,
   0x16ac0, 0x16b50, 0x1d7ce, 0x1d7d8, 0x1d7e2, 0x1d7ec, 0x1d7f6, 0x1e140,
   0x1e2f0, 0x1e950, 0x1fbf0]

/-- The value of a character that `\d` matches. -/
def decimalVal? (c : Char) : Option Nat :=
  (decimalZeros.find? fun z => z ≤ c.toNat ∧ c.toNat < z + 10).map
    (c.toNat - ·)

def isDecimal (c : Char) : Bool := (decimalVal? c).isSome

def decimalValue (digits : Text) : Nat :=
  digits.foldl (fun acc c => acc * 10 + (decimalVal? c).getD 0) 0

/-- Digits, with single underscores between them. -/
def digitGroups (body : Text) : Option Text :=
  let groups := body.splitOn '_'
  if groups.all fun g => g ≠ [] ∧ g.all isDecimal then some groups.flatten
  else none

def strip (text : Text) : Text := (text.dropWhile isWhitespace).rdropWhile isWhitespace

/-- `int(text)` -/
def pyInt (text : Text) : Option Int :=
  let (negative, body) := splitSign (strip text)
  (digitGroups body).map fun digits =>
    if negative then -(decimalValue digits : Int) else decimalValue digits

/-- `re.search(r'(?<=marker)[cls]+', text)` -/
def searchAfter (marker : Text) (cls : Char → Bool) : Text → Option Text
  | [] => none
  | c :: rest =>
      let found := ((c :: rest).drop marker.length).takeWhile cls
      if marker <+: c :: rest ∧ found ≠ [] then some found
      else searchAfter marker cls rest

/-! Words and lines. -/

structure IsWord (word : Text) : Prop where
  nonempty : word ≠ []
  solid : ∀ c ∈ word, isWhitespace c = false

instance (word : Text) : Decidable (IsWord word) :=
  decidable_of_iff (word ≠ [] ∧ word.all fun c => !isWhitespace c)
    ⟨fun h => ⟨h.1, by simpa using h.2⟩,
      fun h => ⟨h.nonempty, by simpa using h.solid⟩⟩

/-- Words with a blank between, and the line end. -/
def wordLine : List Text → Text
  | [] => ['\n']
  | [word] => word ++ ['\n']
  | word :: words => word ++ ' ' :: wordLine words

theorem split_append_cons {c : Char} (hc : isWhitespace c = true) (x y : Text) :
    split (x ++ c :: y) = split x ++ split y := by
  rw [split, List.splitOnP_append_cons x y hc, List.filter_append]
  rfl

theorem split_nil : split [] = [] := by
  simp [split]

theorem split_word {word : Text} (hw : IsWord word) : split word = [word] := by
  rw [split, List.splitOnP_eq_singleton hw.solid]
  simp [hw.nonempty]

/-- Splitting a line gives its words back. -/
theorem split_wordLine {words : List Text} (hwords : ∀ w ∈ words, IsWord w) :
    split (wordLine words) = words := by
  induction words with
  | nil => exact split_append_cons (c := '\n') (by decide) [] []
  | cons word words ih =>
      have hword := hwords word (by simp)
      cases words with
      | nil =>
          rw [wordLine, split_append_cons (by decide), split_word hword,
            split_nil]
          rfl
      | cons next words =>
          have hrest : ∀ w ∈ next :: words, IsWord w := by
            intro w hw
            exact hwords w (by simp [hw])
          rw [wordLine, split_append_cons (by decide), split_word hword,
            ih hrest]
          · rfl
          · simp

/-- What holds no `c` is found on one side of a `c`. -/
theorem infix_append_cons {α : Type*} {k x y : List α} {c : α} (hc : c ∉ k)
    (h : k <:+: x ++ c :: y) : k <:+: x ∨ k <:+: y := by
  rcases List.infix_append_iff.mp h with hx | hy | ⟨k₁, k₂, rfl, hx, hy⟩
  · exact .inl hx
  · rcases List.infix_cons_iff.mp hy with hpre | hy
    · cases k with
      | nil => exact .inr (List.nil_infix)
      | cons d k =>
          rw [List.cons_prefix_cons] at hpre
          simp [hpre.1] at hc
    · exact .inr hy
  · cases k₂ with
    | nil =>
        rw [List.append_nil]
        exact .inl hx.isInfix
    | cons d k₂ =>
        rw [List.cons_prefix_cons] at hy
        simp [hy.1] at hc

/-- What holds no `c` ends at the first `c`. -/
theorem prefix_append_cons_inj {α : Type*} {x y u v : List α} {c : α}
    (hx : c ∉ x) (hu : c ∉ u) (h : x ++ c :: y <+: u ++ c :: v) : x = u := by
  induction x generalizing u with
  | nil =>
      cases u with
      | nil => rfl
      | cons d u =>
          rw [List.nil_append, List.cons_append, List.cons_prefix_cons] at h
          rw [List.mem_cons, not_or] at hu
          exact absurd h.1 hu.1
  | cons d x ih =>
      rw [List.mem_cons, not_or] at hx
      cases u with
      | nil =>
          rw [List.nil_append, List.cons_append, List.cons_prefix_cons] at h
          exact absurd h.1.symm hx.1
      | cons e u =>
          rw [List.cons_append, List.cons_append, List.cons_prefix_cons] at h
          rw [List.mem_cons, not_or] at hu
          rw [h.1, ih hx.2 hu.2 h.2]

/-- A solid text that a line contains is part of one of its words. -/
theorem infix_wordLine {words : List Text} {k : Text} (hk : IsWord k)
    (h : k <:+: wordLine words) : ∃ w ∈ words, k <:+: w := by
  have hblank : ' ' ∉ k := by
    intro hmem
    exact absurd (hk.solid _ hmem) (by decide)
  have hend : '\n' ∉ k := by
    intro hmem
    exact absurd (hk.solid _ hmem) (by decide)
  have hnil : ¬ k <:+: [] := by
    intro hinside
    exact hk.nonempty (List.infix_nil.mp hinside)
  induction words with
  | nil =>
      rcases infix_append_cons hend (x := []) h with hx | hy
      · exact absurd hx hnil
      · exact absurd hy hnil
  | cons word words ih =>
      cases words with
      | nil =>
          rcases infix_append_cons hend h with hx | hy
          · exact ⟨word, by simp, hx⟩
          · exact absurd hy hnil
      | cons next words =>
          rw [wordLine] at h
          · rcases infix_append_cons hblank h with hx | hy
            · exact ⟨word, by simp, hx⟩
            · obtain ⟨w, hw, hinside⟩ := ih hy
              exact ⟨w, by simp [hw], hinside⟩
          · simp

theorem mem_infix_wordLine {words : List Text} {word : Text}
    (h : word ∈ words) : word <:+: wordLine words := by
  induction words with
  | nil => contradiction
  | cons first words ih =>
      cases words with
      | nil =>
          rw [List.mem_singleton.mp h]
          exact List.infix_append_left
      | cons next words =>
          rw [wordLine]
          · rcases List.mem_cons.mp h with rfl | h
            · exact List.infix_append_left
            · apply List.infix_append_of_infix_right
              exact List.infix_cons (ih h)
          · simp

/-- The shape of a line as `print` ends it. -/
structure IsLine (line : Text) : Prop where
  ended : ∃ body, line = body ++ ['\n'] ∧ '\n' ∉ body
  plain : '\r' ∉ line

theorem universalNewlines_append {text : Text} (h : '\r' ∉ text)
    (rest : Text) :
    universalNewlines (text ++ rest) = text ++ universalNewlines rest := by
  induction text with
  | nil => rfl
  | cons c text ih =>
      rw [List.mem_cons, not_or] at h
      rw [List.cons_append, universalNewlines, ih h.2]
      · rfl
      · rintro _ rfl
        exact absurd rfl h.1
      · rintro rfl
        exact absurd rfl h.1

theorem splitLines_append {body : Text} (hbody : '\n' ∉ body) (rest : Text) :
    splitLines (body ++ '\n' :: rest) = (body ++ ['\n']) :: splitLines rest := by
  induction body with
  | nil => simp [splitLines]
  | cons c body ih =>
      rw [List.mem_cons, not_or] at hbody
      simp only [List.cons_append, splitLines, ih hbody.2]
      rw [if_neg (Ne.symm hbody.1)]

/-- Reading a file that starts with lines gives the lines back. -/
theorem readLines_flatten_append {lines : List Text}
    (hlines : ∀ line ∈ lines, IsLine line) (rest : Text) :
    readLines (lines.flatten ++ rest) = lines ++ readLines rest := by
  have hplain : '\r' ∉ lines.flatten := by
    intro hmem
    obtain ⟨line, hline, hmem⟩ := List.mem_flatten.mp hmem
    exact (hlines line hline).plain hmem
  rw [readLines, readLines, universalNewlines_append hplain]
  clear hplain
  induction lines with
  | nil => rfl
  | cons line lines ih =>
      obtain ⟨body, rfl, hbody⟩ := (hlines line (by simp)).ended
      have hrest : ∀ line ∈ lines, IsLine line := by
        intro line hline
        exact hlines line (by simp [hline])
      rw [List.flatten_cons, List.append_assoc, List.append_assoc,
        List.singleton_append, splitLines_append hbody, ih hrest]
      rfl

theorem readLines_flatten {lines : List Text}
    (hlines : ∀ line ∈ lines, IsLine line) :
    readLines lines.flatten = lines := by
  have hread := readLines_flatten_append hlines []
  rw [List.append_nil] at hread
  rw [hread]
  exact List.append_nil lines

theorem IsWord.not_mem {word : Text} (hw : IsWord word) {c : Char}
    (hc : isWhitespace c = true) : c ∉ word := by
  intro hmem
  simp [hw.solid c hmem] at hc

theorem isLine_wordLine {words : List Text} (hwords : ∀ w ∈ words, IsWord w) :
    IsLine (wordLine words) := by
  induction words with
  | nil => exact ⟨⟨[], rfl, by simp⟩, by decide⟩
  | cons word words ih =>
      have hword := hwords word (by simp)
      have hend := hword.not_mem (show isWhitespace '\n' = true by decide)
      have hreturn := hword.not_mem (show isWhitespace '\r' = true by decide)
      cases words with
      | nil => exact ⟨⟨word, rfl, hend⟩, by simp [wordLine, hreturn]⟩
      | cons next words =>
          have hrest : ∀ w ∈ next :: words, IsWord w := by
            intro w hw
            exact hwords w (by simp [hw])
          obtain ⟨⟨body, hbody, hnone⟩, hplain⟩ := ih hrest
          constructor
          · refine ⟨word ++ ' ' :: body, ?_, by simp [hend, hnone]⟩
            rw [wordLine, hbody]
            · simp
            · simp
          · rw [wordLine]
            · simp [hreturn, hplain]
            · simp

/-! Numerals. -/

theorem isDigit_bounds {c : Char} (hc : c.isDigit = true) :
    48 ≤ c.toNat ∧ c.toNat ≤ 57 := by
  simp only [Char.isDigit, Bool.and_eq_true, decide_eq_true_eq] at hc
  exact ⟨hc.1, hc.2⟩

theorem isWhitespace_of_isDigit {c : Char} (hc : c.isDigit = true) :
    isWhitespace c = false := by
  have := isDigit_bounds hc
  simp only [isWhitespace, decide_eq_false_iff_not]
  omega

theorem decimalVal?_of_isDigit {c : Char} (hc : c.isDigit = true) :
    decimalVal? c = some (c.toNat - 48) := by
  obtain ⟨hlo, hhi⟩ := isDigit_bounds hc
  rw [decimalVal?, decimalZeros, List.find?_cons_of_pos]
  · rfl
  · simp only [decide_eq_true_eq]
    omega

theorem isDecimal_of_isDigit {c : Char} (hc : c.isDigit = true) :
    isDecimal c = true := by
  rw [isDecimal, decimalVal?_of_isDigit hc]
  rfl

theorem isWord_of_isDigit {digits : Text} (hne : digits ≠ [])
    (hdigits : ∀ c ∈ digits, c.isDigit = true) : IsWord digits :=
  ⟨hne, fun c hc => isWhitespace_of_isDigit (hdigits c hc)⟩

theorem isDigit_of_mem_decimal {n : Nat} {c : Char}
    (hc : c ∈ Nat.toDigits 10 n) : c.isDigit = true :=
  Nat.isDigit_of_mem_toDigits (by norm_num) (by norm_num) hc

theorem isWord_toDigits (n : Nat) : IsWord (Nat.toDigits 10 n) :=
  isWord_of_isDigit Nat.toDigits_ne_nil fun _ => isDigit_of_mem_decimal

theorem isWord_showInt (n : Int) : IsWord (showInt n) := by
  have hword := isWord_toDigits n.natAbs
  rw [showInt]
  split
  · constructor
    · simp
    · intro c hc
      rcases List.mem_cons.mp hc with rfl | hc
      · decide
      · exact hword.solid c hc
  · exact hword

theorem decimalValue_toDigits (n : Nat) :
    decimalValue (Nat.toDigits 10 n) = n := by
  calc decimalValue (Nat.toDigits 10 n)
      = Nat.ofDigitChars 10 (Nat.toDigits 10 n) 0 := by
        rw [decimalValue, Nat.ofDigitChars]
        apply List.foldl_ext
        intro acc c hc
        rw [decimalVal?_of_isDigit (isDigit_of_mem_decimal hc), Nat.mul_comm]
        rfl
    _ = n := Nat.ofDigitChars_ten_toDigits

theorem digitGroups_toDigits (n : Nat) :
    digitGroups (Nat.toDigits 10 n) = some (Nat.toDigits 10 n) := by
  rw [digitGroups, List.splitOn_eq_singleton Nat.underscore_not_in_toDigits]
  simp [Nat.toDigits_ne_nil]
  exact fun c hc => isDecimal_of_isDigit (isDigit_of_mem_decimal hc)

theorem strip_word {word : Text} (hw : IsWord word) : strip word = word := by
  have hleft : word.dropWhile isWhitespace = word := by
    cases word with
    | nil => rfl
    | cons c rest => simp [hw.solid c (by simp)]
  rw [strip, hleft, List.rdropWhile_eq_self_iff]
  intro hne
  simp [hw.solid _ (List.getLast_mem hne)]

theorem splitSign_toDigits (n : Nat) :
    splitSign (Nat.toDigits 10 n) = (false, Nat.toDigits 10 n) := by
  cases hdigits : Nat.toDigits 10 n with
  | nil => exact absurd hdigits Nat.toDigits_ne_nil
  | cons c rest =>
      have hc : c.isDigit = true :=
        isDigit_of_mem_decimal (n := n) (by simp [hdigits])
      rw [splitSign]
      · rintro rest ⟨rfl, -⟩
        exact absurd hc (by decide)
      · rintro rest ⟨rfl, -⟩
        exact absurd hc (by decide)

theorem pyInt_toDigits (n : Nat) : pyInt (Nat.toDigits 10 n) = some (n : Int) := by
  rw [pyInt, strip_word (isWord_toDigits n), splitSign_toDigits]
  simp [digitGroups_toDigits, decimalValue_toDigits]

/-- Reading a written integer gives it back. -/
theorem pyInt_showInt (n : Int) : pyInt (showInt n) = some n := by
  have hword := isWord_showInt n
  rw [showInt] at hword ⊢
  split at hword
  · next hneg =>
      rw [if_pos hneg, pyInt, strip_word hword, splitSign]
      simp only [digitGroups_toDigits, decimalValue_toDigits, Option.map_some,
        if_true]
      congr 1
      omega
  · next hpos =>
      rw [if_neg hpos, pyInt_toDigits]
      congr 1
      omega

/-! The search. -/

theorem searchAfter_of_not_infix {marker : Text} {cls : Char → Bool}
    {text : Text} (h : ¬ marker <:+: text) :
    searchAfter marker cls text = none := by
  induction text with
  | nil => rfl
  | cons c rest ih =>
      rw [List.infix_cons_iff, not_or] at h
      rw [searchAfter, if_neg fun hfound => h.1 hfound.1, ih h.2]

/-- A text that starts with the marker is matched right behind it. -/
theorem searchAfter_prefix {marker found rest : Text} {cls : Char → Bool}
    (hmarker : marker ≠ []) (hne : found ≠ [])
    (hfound : ∀ c ∈ found, cls c = true) (hrest : ∀ c ∈ rest.head?, cls c = false) :
    searchAfter marker cls (marker ++ (found ++ rest)) = some found := by
  have htake : (found ++ rest).takeWhile cls = found := by
    rw [List.takeWhile_append_of_pos hfound]
    cases rest with
    | nil => simp
    | cons c rest => simp [hrest c (by simp)]
  cases marker with
  | nil => exact absurd rfl hmarker
  | cons c marker =>
      rw [List.cons_append, searchAfter, ← List.cons_append,
        List.drop_left, htake, if_pos ⟨List.prefix_append _ _, hne⟩]

/-- `k` is no part of the text, and does not begin at its end. -/
structure Avoids (k text : Text) : Prop where
  absent : ¬ k <:+: text
  closed : ∀ part ∈ k.inits, part ≠ [] → ¬ part <:+ text

instance (k text : Text) : Decidable (Avoids k text) :=
  decidable_of_iff
    (¬ k <:+: text ∧ ∀ part ∈ k.inits, part ≠ [] → ¬ part <:+ text)
    ⟨fun h => ⟨h.1, h.2⟩, fun h => ⟨h.absent, h.closed⟩⟩

variable {k x y : Text}

theorem suffix_append_cases (h : k <:+ x ++ y) :
    k <:+ y ∨ ∃ part, part ≠ [] ∧ k = part ++ y ∧ part <:+ x := by
  obtain ⟨t, ht⟩ := h
  rcases List.append_eq_append_iff.mp ht with ⟨part, hx, hk⟩ | ⟨rest, -, hy⟩
  · cases part with
    | nil => exact .inl (by simp [hk])
    | cons c part => exact .inr ⟨c :: part, by simp, hk, ⟨t, hx.symm⟩⟩
  · exact .inl ⟨rest, hy.symm⟩

/-- Texts that avoid `k` can be put together. -/
theorem Avoids.append (hx : Avoids k x) (hy : Avoids k y) :
    Avoids k (x ++ y) := by
  constructor
  · intro hinside
    rcases List.infix_append_iff.mp hinside with h | h | ⟨k₁, k₂, rfl, h₁, h₂⟩
    · exact hx.absent h
    · exact hy.absent h
    · cases k₁ with
      | nil => exact hy.absent h₂.isInfix
      | cons c k₁ =>
          apply hx.closed (c :: k₁)
          · rw [List.mem_inits]
            exact List.prefix_append _ _
          · simp
          · exact h₁
  · intro part hpart hne hsuffix
    rcases suffix_append_cases hsuffix with h | ⟨part', hne', rfl, h⟩
    · exact hy.closed part hpart hne h
    · apply hx.closed part' _ hne' h
      rw [List.mem_inits] at hpart ⊢
      exact (List.prefix_append _ _).trans hpart

theorem avoids_of_head_not_mem {c : Char} (hc : c ∉ x) : Avoids (c :: k) x := by
  constructor
  · intro hinside
    exact hc (hinside.subset List.mem_cons_self)
  · intro part hpart hne hsuffix
    cases part with
    | nil => exact hne rfl
    | cons d part =>
        rw [List.mem_inits, List.cons_prefix_cons] at hpart
        apply hc
        rw [← hpart.1]
        exact hsuffix.subset List.mem_cons_self

theorem avoids_of_second_not_mem {a c : Char} (hc : c ∉ x)
    (ha : x.getLast? ≠ some a) : Avoids (a :: c :: k) x := by
  constructor
  · intro hinside
    exact hc (hinside.subset (by simp))
  · intro part hpart hne hsuffix
    rw [List.mem_inits] at hpart
    rcases part with _ | ⟨d, _ | ⟨e, part⟩⟩
    · exact hne rfl
    · rw [List.cons_prefix_cons] at hpart
      obtain ⟨t, rfl⟩ := hsuffix
      apply ha
      rw [List.getLast?_concat, hpart.1]
    · simp only [List.cons_prefix_cons] at hpart
      apply hc
      rw [← hpart.2.1]
      exact hsuffix.subset (by simp)

theorem avoids_flatMap {α : Type*} {xs : List α} {f : α → Text} {c : Char}
    (h : ∀ a ∈ xs, Avoids (c :: k) (f a)) : Avoids (c :: k) (xs.flatMap f) := by
  induction xs with
  | nil => exact avoids_of_head_not_mem (by simp)
  | cons a xs ih =>
      rw [List.flatMap_cons]
      apply Avoids.append
      · exact h a (by simp)
      · exact ih fun b hb => h b (by simp [hb])

theorem searchAfter_of_avoids {marker text : Text} {cls : Char → Bool}
    (hmarker : k <:+: marker) (h : Avoids k text) :
    searchAfter marker cls text = none :=
  searchAfter_of_not_infix fun hinside => h.absent (hmarker.trans hinside)

/-- What has no line end is not in a line unless it is in front of its end. -/
theorem avoids_line (hend : '\n' ∉ k) (h : ¬ k <:+: x) :
    Avoids k (x ++ ['\n']) := by
  constructor
  · intro hinside
    rcases infix_append_cons hend hinside with hx | hnil
    · exact h hx
    · rw [List.infix_nil.mp hnil] at h
      exact h List.nil_infix
  · intro part hpart hne hsuffix
    obtain ⟨body, c, rfl⟩ := (List.eq_nil_or_concat' part).resolve_left hne
    have hlast : c = '\n' := by
      have hchars : [c] <:+ [] ++ ['\n'] := by
        have hwhole : [c] <:+ x ++ ['\n'] :=
          (List.suffix_append body [c]).trans hsuffix
        apply List.suffix_of_suffix_length_le hwhole
        · exact List.suffix_append x ['\n']
        · simp
      simpa using hchars.eq_of_length (by simp)
    rw [List.mem_inits] at hpart
    apply hend
    rw [← hlast]
    exact hpart.subset (by simp)

/-- The search goes on behind what avoids the marker. -/
theorem searchAfter_append {marker : Text} {cls : Char → Bool}
    (h : Avoids marker x) :
    searchAfter marker cls (x ++ y) = searchAfter marker cls y := by
  induction x with
  | nil => rfl
  | cons c x ih =>
      have hrest : Avoids marker x := by
        constructor
        · exact fun hinside => h.absent (List.infix_cons hinside)
        · intro part hpart hne hsuffix
          exact h.closed part hpart hne
            (hsuffix.trans (List.suffix_cons c x))
      have hstart : ¬ marker <+: c :: (x ++ y) := by
        intro hprefix
        rcases List.prefix_or_prefix_of_prefix hprefix
          (List.prefix_append (c :: x) y) with hinside | hpart
        · exact h.absent hinside.isInfix
        · exact h.closed (c :: x) ((List.mem_inits _ _).mpr hpart) (by simp)
            List.suffix_rfl
      rw [List.cons_append, searchAfter, if_neg fun hfound => hstart hfound.1,
        ih hrest]

end PyText
