/-
Numbers, characters and strings among the arguments of a shell line: what the
shell takes a word for, and what the word is.
-/
import UfsTools.CliNumerals
import UfsTools.ShellWords

namespace UfsTools

open CLib Process

/-! Characters. -/

theorem isAlphabet_eq (ch : Char) : isAlphabet ch = ch.isAlpha := by
  rw [isAlphabet, Char.isAlpha, Char.isUpper, Char.isLower]
  simp only [Bool.decide_or, Bool.decide_and, ge_iff_le, Char.le_def]

theorem char_le_iff (a b : Char) : a ≤ b ↔ a.toNat ≤ b.toNat := Iff.rfl

theorem toNat_toUpper (ch : Char) :
    ch.toUpper.toNat =
      if 97 ≤ ch.toNat ∧ ch.toNat ≤ 122 then ch.toNat - 32 else ch.toNat := by
  have hlower : ('a'.val ≤ ch.val ∧ ch.val ≤ 'z'.val) ↔
      97 ≤ ch.toNat ∧ ch.toNat ≤ 122 := Iff.rfl
  rw [Char.toUpper]
  split_ifs with hch hnat hnat
  · obtain ⟨hlo, hhi⟩ := hnat
    have hdiff : ('A'.val - 'a'.val).toNat = 4294967264 := by decide
    change (ch.val + ('A'.val - 'a'.val)).toNat = ch.toNat - 32
    rw [UInt32.toNat_add, hdiff, Char.toNat_val]
    omega
  · exact absurd (hlower.mp hch) hnat
  · exact absurd (hlower.mpr hnat) hch
  · rfl

theorem isDigit_iff (ch : Char) (isHex : Bool) :
    isDigit ch isHex = true ↔ digitVal ch < if isHex then 16 else 10 := by
  have hupper := toNat_toUpper ch
  simp only [isDigit, digitVal, ge_iff_le, char_le_iff, hupper,
    decide_eq_true_eq, Char.reduceToNat]
  cases isHex with
  | true =>
      simp only [true_and, if_true]
      split_ifs <;> omega
  | false =>
      simp only [Bool.false_eq_true, false_and, or_false, if_false]
      split_ifs <;> omega
/-- The loop of `is_number` runs over the whole word. -/
theorem isNumberRest_iff {word : Text} (hblank : ' ' ∉ word) (isHex : Bool) :
    isNumberRest isHex word = true ↔
      ∀ c ∈ word, digitVal c < if isHex then 16 else 10 := by
  induction word with
  | nil => simp [isNumberRest]
  | cons c word ih =>
      rw [List.mem_cons, not_or] at hblank
      rw [isNumberRest, if_neg (Ne.symm hblank.1), Bool.and_eq_true,
        ih hblank.2, isDigit_iff, List.forall_mem_cons]

/-! Numbers. -/

/-- A zero, any one character and hexadecimal digits only, which is no numeral:
nothing is behind the `x`, or the character is none of a numeral, or it is a
decimal digit with a letter among the digits behind it. -/
inductive Misread : Text → Prop
  | bare {x : Char} (hx : x = 'x' ∨ x = 'X') : Misread ['0', x]
  | other {c : Char} {digits : Text} (hc : 10 ≤ digitVal c) (hx : c ≠ 'x')
      (hX : c ≠ 'X') (hdigits : ∀ d ∈ digits, digitVal d < 16) :
      Misread ('0' :: c :: digits)
  | letter {c : Char} {digits : Text} (hc : digitVal c < 10)
      (hdigits : ∀ d ∈ digits, digitVal d < 16)
      (hletter : ∃ d ∈ digits, 10 ≤ digitVal d) : Misread ('0' :: c :: digits)

theorem not_unsigned_of_misread {word : Text} {n : Nat} (h : Misread word) :
    ¬ Unsigned word n := by
  intro hunsigned
  cases h with
  | bare hx =>
      cases hunsigned with
      | decimal hdigits =>
          have hlt := hdigits.below _ (List.mem_cons_of_mem _
            List.mem_cons_self)
          rcases hx with rfl | rfl <;> exact absurd hlt (by decide)
      | hex _ hdigits => exact hdigits.nonempty rfl
  | other hc hx hX _ =>
      cases hunsigned with
      | decimal hdigits =>
          have hlt := hdigits.below _ (List.mem_cons_of_mem _
            List.mem_cons_self)
          omega
      | hex hxX _ => exact hxX.elim hx hX
  | letter hc _ hletter =>
      cases hunsigned with
      | decimal hdigits =>
          obtain ⟨d, hd, hge⟩ := hletter
          have hlt := hdigits.below d (by simp [hd])
          omega
      | hex hxX _ => rcases hxX with rfl | rfl <;> exact absurd hc (by decide)

theorem unsigned_decimal {digits : Text} (hnonempty : digits ≠ [])
    (hbelow : ∀ d ∈ digits, digitVal d < 10) : ∃ n, Unsigned digits n :=
  ⟨_, .decimal ⟨hnonempty, hbelow, rfl⟩⟩

theorem unsigned_or_misread {c : Char} {digits : Text}
    (hdigits : ∀ d ∈ digits, digitVal d < 16) :
    (∃ n, Unsigned ('0' :: c :: digits) n) ∨ Misread ('0' :: c :: digits) := by
  by_cases hc : digitVal c < 10
  · by_cases hletter : ∃ d ∈ digits, 10 ≤ digitVal d
    · exact .inr (.letter hc hdigits hletter)
    · simp only [not_exists, not_and, not_le] at hletter
      refine .inl (unsigned_decimal (by simp) ?_)
      simp only [List.forall_mem_cons]
      exact ⟨by decide, hc, hletter⟩
  · by_cases hx : c = 'x' ∨ c = 'X'
    · cases digits with
      | nil => exact .inr (.bare hx)
      | cons d digits =>
          exact .inl ⟨_, .hex hx ⟨List.cons_ne_nil d digits, hdigits, rfl⟩⟩
    · rw [not_or] at hx
      exact .inr (.other (not_lt.mp hc) hx.1 hx.2 hdigits)

theorem below_of_unsigned {c : Char} {digits : Text} {n : Nat}
    (h : Unsigned ('0' :: c :: digits) n) : ∀ d ∈ digits, digitVal d < 16 := by
  intro d hd
  cases h with
  | decimal hdigits =>
      have hlt := hdigits.below d (by simp [hd])
      omega
  | hex _ hdigits => exact hdigits.below d hd

theorem below_of_misread {c : Char} {digits : Text}
    (h : Misread ('0' :: c :: digits)) : ∀ d ∈ digits, digitVal d < 16 := by
  cases h with
  | bare => simp
  | other _ _ _ hdigits => exact hdigits
  | letter _ hdigits _ => exact hdigits

/-- The shell takes for numbers the numerals and what it misreads. -/
theorem isNumber_iff {word : Text} (hblank : ' ' ∉ word) :
    isNumber word = true ↔ (∃ n, Unsigned word n) ∨ Misread word := by
  rw [isNumber.eq_def]
  split
  · next c digits =>
      rw [List.mem_cons, List.mem_cons, not_or, not_or] at hblank
      rw [isNumberRest_iff hblank.2.2]
      constructor
      · intro hdigits
        exact unsigned_or_misread hdigits
      · rintro (⟨n, hunsigned⟩ | hmisread)
        · exact below_of_unsigned hunsigned
        · exact below_of_misread hmisread
  · next c digits hshort =>
      rw [List.mem_cons, not_or] at hblank
      rw [Bool.and_eq_true, isDigit_iff, isNumberRest_iff hblank.2]
      simp only [Bool.false_eq_true, if_false]
      constructor
      · intro hbelow
        exact .inl (unsigned_decimal (List.cons_ne_nil c digits)
          (List.forall_mem_cons.mpr hbelow))
      · rintro (⟨n, hunsigned⟩ | hmisread)
        · cases hunsigned with
          | decimal hdigits => exact List.forall_mem_cons.mp hdigits.below
          | hex _ _ => exact (hshort _ _ rfl rfl).elim
        · cases hmisread <;> exact (hshort _ _ rfl rfl).elim
  · constructor
    · intro h
      contradiction
    · rintro (⟨n, hunsigned⟩ | hmisread)
      · cases hunsigned with
        | decimal hdigits => exact absurd rfl hdigits.nonempty
      · cases hmisread

/-! The value. -/

theorem valueOf_eq_zero_iff {base : Nat} (hbase : 0 < base) (digits : Text) :
    valueOf base digits = 0 ↔ ∀ d ∈ digits, digitVal d = 0 := by
  induction digits using List.reverseRecOn with
  | nil => simp [valueOf]
  | append_singleton digits d ih =>
      rw [valueOf_append_singleton, Nat.add_eq_zero_iff, Nat.mul_eq_zero,
        or_iff_left (by omega), ih]
      simp [or_imp, forall_and]

theorem scanInteger_unsigned {base base' : Nat} {body digits : Text} {n : Nat}
    (hhead : ∃ c rest, body = c :: rest ∧ digitVal c < 16)
    (hbase : splitBase base body = (base', digits))
    (hdigits : Digits base' digits n) :
    scanInteger base body = some (false, n, []) :=
  @scanInteger_signed base base' [] [] body digits n (by simp) (.inl rfl) hhead
    hbase hdigits

theorem strtol_unsigned {base n : Nat} {word rest : Text}
    (hscan : scanInteger base word = some (false, n, rest)) (hn : n ≤ intMax) :
    toInt (strtol base word).1 = n := by
  have hmax : intMax = 2147483647 := rfl
  rw [strtol_of_some hscan, toInt_longOf (by omega)]
  exact toInt_of_range (by simp only [withSign]; omega) hn

/-- `atoi` stops at the letter of the prefix. -/
theorem atoi_hex {x : Char} (hx : x = 'x' ∨ x = 'X') (digits : Text) :
    atoi ('0' :: x :: digits) = 0 := by
  have hscan : scanInteger 10 ('0' :: x :: digits) =
      some (false, 0, x :: digits) := by
    have hspace : ('0' :: x :: digits).dropWhile isSpace =
        '0' :: x :: digits := rfl
    have hsign : splitSign ('0' :: x :: digits) =
        (false, '0' :: x :: digits) := rfl
    have hdigits : (('0' :: x :: digits).takeWhile fun c =>
        decide (digitVal c < 10)) = ['0'] := by
      rcases hx with rfl | rfl <;> rfl
    rw [scanInteger, hspace]
    simp only [hsign, splitBase_ten, hdigits]
    rfl
  exact strtol_unsigned hscan (by decide)

theorem splitBase_sixteen {digits : Text}
    (hbelow : ∀ d ∈ digits, digitVal d < 10) :
    splitBase 16 digits = (16, digits) := by
  rw [splitBase.eq_def]
  split
  · next x d rest =>
      have hx : ¬ (x = 'x' ∨ x = 'X') := by
        have hlt := hbelow x (by simp)
        rintro (rfl | rfl) <;> exact absurd hlt (by decide)
      simp [hx]
  · simp
  · simp

/-- A second conversion where the first gives zero leaves zeros zero. -/
theorem shellNumber_of_unsigned {word : Text} {n : Nat} (h : Unsigned word n)
    (hn : n ≤ intMax) : shellNumber word = n := by
  cases h with
  | decimal hdigits =>
      obtain ⟨d, rest, hcons, hd⟩ := hdigits.cons
      have hhead : ∃ c rest, word = c :: rest ∧ digitVal c < 16 :=
        ⟨d, rest, hcons, by omega⟩
      have hatoi : atoi word = n :=
        strtol_unsigned
          (scanInteger_unsigned hhead (splitBase_ten word) hdigits) hn
      rw [shellNumber, hatoi]
      split_ifs with hzero
      · rw [Nat.cast_eq_zero] at hzero
        subst hzero
        have hzeros := (valueOf_eq_zero_iff (by decide) word).mp hdigits.value
        have hsixteen : Digits 16 word 0 := by
          refine ⟨hdigits.nonempty, ?_,
            (valueOf_eq_zero_iff (by decide) word).mpr hzeros⟩
          intro c hc
          rw [hzeros c hc]
          decide
        exact strtol_unsigned (scanInteger_unsigned hhead
          (splitBase_sixteen hdigits.below) hsixteen) hn
      · rfl
  | @hex x digits _ hx hdigits =>
      obtain ⟨d, rest, rfl, hd⟩ := hdigits.cons
      have hbase : splitBase 16 ('0' :: x :: d :: rest) = (16, d :: rest) := by
        simp [splitBase, hx, hd]
      rw [shellNumber, if_pos (atoi_hex hx (d :: rest))]
      exact strtol_unsigned (scanInteger_unsigned ⟨'0', _, rfl, by decide⟩
        hbase hdigits) hn

/-! Characters, numbers and strings. -/

theorem isCharacter_iff {word : Text} (hblank : ' ' ∉ word) :
    isCharacter word = true ↔ ∃ c, word = [c] ∧ c.isAlpha = true := by
  rcases word with _ | ⟨c, _ | ⟨next, rest⟩⟩
  · simp [isCharacter]
  · simp [isCharacter, isAlphabet_eq]
  · have hnext : next ≠ ' ' := by
      rintro rfl
      exact hblank (by simp)
    simp [isCharacter, hnext]

theorem not_unsigned_of_isAlpha {c : Char} (halpha : c.isAlpha = true)
    (n : Nat) : ¬ Unsigned [c] n := by
  intro hunsigned
  cases hunsigned with
  | decimal hdigits =>
      have hlt := hdigits.below c List.mem_cons_self
      rw [← isAlphabet_eq] at halpha
      simp only [isAlphabet, digitVal, ge_iff_le, char_le_iff, decide_eq_true_eq,
        Char.reduceToNat] at halpha hlt
      split_ifs at hlt <;> omega

theorem not_isAlpha_of_misread {token : Text} (h : Misread token) :
    ¬ ∃ c, token = [c] ∧ c.isAlpha = true := by
  rintro ⟨c, rfl, -⟩
  cases h

/-- The variable is what the token is: a number for a numeral and nothing else,
and its value where an `int` holds it; a character for a letter and nothing
else; in all other cases a string, the token itself. -/
structure Lexed (buff : Text) (val : Option ShellVariant) (token : Text) :
    Prop where
  number : (∃ v, val = some (.int v)) ↔ ∃ n, Unsigned token n
  value : ∀ n, Unsigned token n → n ≤ intMax → val = some (.int n)
  character : (∃ c, val = some (.char c)) ↔
    ∃ c, token = [c] ∧ c.isAlpha = true
  letter : ∀ c, token = [c] → c.isAlpha = true → val = some (.char c)
  string : (¬ ∃ n, Unsigned token n) →
    (¬ ∃ c, token = [c] ∧ c.isAlpha = true) →
      ∃ ptr, val = some (.string ptr) ∧ cString buff ptr = token

theorem shellVariant_of_letter {buff : Text} {ptr : Nat} {c : Char}
    (hstring : cString buff ptr = [c]) (halpha : c.isAlpha = true) :
    shellVariant buff ptr = .char c := by
  have hcharacter : isCharacter [c] = true := by
    rw [isCharacter, isAlphabet_eq, halpha]
  rw [shellVariant, hstring]
  exact if_pos hcharacter

theorem shellVariant_of_not_letter {buff token : Text} {ptr : Nat}
    (hblank : ' ' ∉ token) (hstring : cString buff ptr = token)
    (hletter : ¬ ∃ c, token = [c] ∧ c.isAlpha = true) :
    shellVariant buff ptr =
      if isNumber token then .int (shellNumber token) else .string ptr := by
  rw [← isCharacter_iff hblank] at hletter
  rw [shellVariant, hstring]
  exact if_neg hletter

theorem lexed_iff {buff token : Text} {val : ShellVariant}
    (hblank : ' ' ∉ token) (hstems : Stems buff val token) :
    Lexed buff (some val) token ↔ ¬ Misread token := by
  obtain ⟨ptr, hstring, rfl⟩ := hstems
  constructor
  · intro hlexed hmisread
    have hval := shellVariant_of_not_letter hblank hstring
      (not_isAlpha_of_misread hmisread)
    rw [if_pos ((isNumber_iff hblank).mpr (.inr hmisread))] at hval
    obtain ⟨n, hunsigned⟩ := hlexed.number.mp ⟨_, congrArg some hval⟩
    exact not_unsigned_of_misread hmisread hunsigned
  · intro hread
    by_cases hletter : ∃ c, token = [c] ∧ c.isAlpha = true
    · obtain ⟨c, rfl, halpha⟩ := hletter
      have hnone := not_unsigned_of_isAlpha halpha
      rw [shellVariant_of_letter hstring halpha]
      constructor <;> simp [hnone, halpha]
    · have hval := shellVariant_of_not_letter hblank hstring hletter
      by_cases hnumber : ∃ n, Unsigned token n
      · rw [if_pos ((isNumber_iff hblank).mpr (.inl hnumber))] at hval
        rw [hval]
        constructor
        · exact iff_of_true ⟨_, rfl⟩ hnumber
        · intro n hunsigned hn
          rw [shellNumber_of_unsigned hunsigned hn]
        · exact iff_of_false (by simp) hletter
        · intro c htoken halpha
          exact absurd ⟨c, htoken, halpha⟩ hletter
        · intro hnot
          exact absurd hnumber hnot
      · have hother : ¬ isNumber token = true := by
          rw [isNumber_iff hblank, not_or]
          exact ⟨hnumber, hread⟩
        rw [if_neg hother] at hval
        rw [hval]
        constructor
        · exact iff_of_false (by simp) hnumber
        · intro n hunsigned
          exact absurd ⟨n, hunsigned⟩ hnumber
        · exact iff_of_false (by simp) hletter
        · intro c htoken halpha
          exact absurd ⟨c, htoken, halpha⟩ hletter
        · intro _ _
          exact ⟨ptr, rfl, hstring⟩

/-- `shell_atoi` reads the numbers the shell stores. -/
theorem shellAtoi_of_int {buff : Text} {ptr : Nat} {v : Int}
    (h : shellVariant buff ptr = .int v) :
    shellAtoi (cString buff ptr) = v := by
  simp only [shellVariant] at h
  split_ifs at h with hcharacter hnumber
  rw [shellAtoi, if_pos hnumber]
  exact ShellVariant.int.inj h

/-! A line. -/

theorem exists_of_forall₂ {α β : Type*} {R : α → β → Prop} {as : List α}
    {bs : List β} (h : List.Forall₂ R as bs) {i : Nat} {b : β}
    (hb : bs[i]? = some b) : ∃ a, as[i]? = some a ∧ R a b := by
  induction h generalizing i with
  | nil => simp at hb
  | cons hhead _ ih =>
      cases i with
      | zero => exact ⟨_, rfl, Option.some.inj hb ▸ hhead⟩
      | succ i => exact ih hb

variable {H X : Type}

/-- Wherever a token is among the arguments of a line, the shell takes it for
what it is if and only if it is none of those it misreads. -/
theorem shell_lexes_iff {line rest token : Text} {i : Nat}
    (hnul : '\x00' ∉ line) (hargs : i < shellMaxArgs)
    (htoken : (lineWords line).tail[i]? = some token)
    (m : Machine (ShellGlobals H X)) :
    wp shellInterpretCmdLine
        (fun _ m' => Lexed m'.mem.cmdBuff m'.mem.args.argVal[i]? token)
        (fun _ _ => False)
        { m with mem := { m.mem with cmdBuff := line ++ '\x00' :: rest } } ↔
      ¬ Misread token := by
  have hend : '\x00' ∈ line ++ '\x00' :: rest := by simp
  have hmem := List.mem_of_mem_tail (List.mem_of_getElem? htoken)
  have hword := word_of_mem_lineWords hnul token hmem
  rw [shellInterpretCmdLine, wp_bind, wp_get, if_neg (not_not_intro hend)]
  rcases interpretLine_line hnul rest with ⟨hwords, -⟩ |
    ⟨command, words, buff, ptr, vals, hwords, hinterpreted, -, hstems⟩
  · rw [hwords] at hmem
    contradiction
  · rw [hwords, List.tail_cons, ← List.getElem?_take_of_lt hargs] at htoken
    obtain ⟨val, hval, hstem⟩ := exists_of_forall₂ hstems htoken
    simp only [hinterpreted, wp_bind, wp_modify, wp_pure, hval]
    exact lexed_iff hword.not_mem_blank hstem

/-- A command with the hexadecimal argument the script gives. -/
theorem shell_lexes_hex :
    wp shellInterpretCmdLine
        (fun _ m' => Lexed m'.mem.cmdBuff m'.mem.args.argVal[1]?
          (lit "0xf6"))
        (fun _ _ => False)
        { idleShell with mem := { idleShell.mem with
          cmdBuff := lit "uic  -i 0xf6" ++ '\x00' :: [] } } ↔
      ¬ Misread (lit "0xf6") :=
  shell_lexes_iff (by decide) (by decide) (by decide) idleShell

/-- `0a` is stored as the number ten. -/
theorem letter_behind_zero_misread :
    ¬ ∀ (line rest token : Text) (i : Nat), '\x00' ∉ line → i < shellMaxArgs →
      (lineWords line).tail[i]? = some token →
      ∀ m : Machine (ShellGlobals Unit Unit),
        wp shellInterpretCmdLine
          (fun _ m' => Lexed m'.mem.cmdBuff m'.mem.args.argVal[i]? token)
          (fun _ _ => False)
          { m with mem := { m.mem with cmdBuff := line ++ '\x00' :: rest } } := by
  intro h
  have hmisread : Misread ['0', 'a'] :=
    .other (by decide) (by decide) (by decide) (by simp)
  have hnul : '\x00' ∉ lit "uic 0a" := by decide
  have htoken : (lineWords (lit "uic 0a")).tail[0]? = some (lit "0a") := by
    decide
  have hlexed := h _ [] _ 0 hnul (by decide) htoken idleShell
  have hend : '\x00' ∈ lit "uic 0a" ++ '\x00' :: [] := by decide
  rw [shellInterpretCmdLine, wp_bind, wp_get, if_neg (not_not_intro hend),
    wp_bind, wp_modify, wp_pure] at hlexed
  have hstored : (interpretLine (lit "uic 0a" ++ '\x00' :: [])).args.argVal[0]?
      = some (.int 10) := by decide +kernel
  obtain ⟨n, hunsigned⟩ := hlexed.number.mp ⟨10, hstored⟩
  exact not_unsigned_of_misread hmisread hunsigned

end UfsTools
