/-
The command buffer of the shell: what joining the arguments leaves in it, when
that stays inside, and what the words of the joined line are.
-/
import UfsTools.Lsufs

namespace UfsTools

open CLib Process

/-- The arguments with a blank between each two. -/
def joinLine : List Text → Text
  | [] => []
  | [arg] => arg
  | arg :: next :: rest => arg ++ ' ' :: joinLine (next :: rest)

theorem length_joinLine (args : List Text) :
    (joinLine args).length =
      (args.map List.length).sum + (args.length - 1) := by
  induction args with
  | nil => rfl
  | cons arg rest ih =>
      cases rest with
      | nil => simp [joinLine]
      | cons next rest =>
          simp only [joinLine, List.length_append, List.length_cons, ih,
            List.map_cons, List.sum_cons]
          omega

theorem copyStores_cons (c : Char) (text : Text) (idx : Nat) :
    copyStores (c :: text) idx = (idx, c) :: copyStores text (idx + 1) :=
  rfl

theorem copyStores_append (left right : Text) (idx : Nat) :
    copyStores (left ++ right) idx =
      copyStores left idx ++ copyStores right (idx + left.length) := by
  simp only [copyStores, List.zipIdx_append, List.map_append]

/-- The loop stores the characters of the line one behind the other. -/
theorem joinStores_eq (args : List Text) (idx : Nat) :
    joinStores args idx = copyStores (joinLine args) idx := by
  induction args generalizing idx with
  | nil => rfl
  | cons arg rest ih =>
      cases rest with
      | nil => rfl
      | cons next rest =>
          rw [joinStores, joinLine, copyStores_append, copyStores_cons, ih]

theorem copyStores_inside_iff {text : Text} {idx size : Nat} :
    (∀ s ∈ copyStores text idx, s.1 < size) ↔
      ∀ k < text.length, idx + k < size := by
  induction text generalizing idx with
  | nil => simp [copyStores]
  | cons c text ih =>
      rw [copyStores_cons, List.forall_mem_cons, ih, List.length_cons]
      constructor
      · rintro ⟨hfirst, hrest⟩ k hk
        cases k with
        | zero => exact hfirst
        | succ k =>
            have hnext := hrest k (by omega)
            omega
      · intro h
        constructor
        · exact h 0 (by omega)
        · intro k hk
          have hnext := h (k + 1) (by omega)
          omega

/-- Characters stored one behind the other replace what was there. -/
theorem applyStores_copyStores {buff text : Text} {idx : Nat}
    (hinside : idx + text.length ≤ buff.length) :
    applyStores buff (copyStores text idx) =
      buff.take idx ++ text ++ buff.drop (idx + text.length) := by
  induction text generalizing buff idx with
  | nil => simp [copyStores, applyStores]
  | cons c text ih =>
      rw [List.length_cons] at hinside
      have hlt : idx < buff.length := by omega
      have hnext : idx + 1 + text.length ≤ (buff.set idx c).length := by
        rw [List.length_set]
        omega
      have hstep := ih hnext
      rw [copyStores_cons]
      change applyStores (buff.set idx c) (copyStores text (idx + 1)) = _
      have htake : (buff.set idx c).take (idx + 1) = buff.take idx ++ [c] := by
        rw [List.take_add_one, List.take_set_of_le le_rfl,
          List.getElem?_set_self hlt, Option.toList_some]
      rw [hstep, htake, List.drop_set_of_lt (by omega), List.length_cons,
        List.append_assoc, List.append_assoc, List.singleton_append,
        List.append_assoc, List.cons_append, Nat.add_right_comm]
      rfl

/-- The buffer behind the loop that joins the arguments. -/
def joinedBuff (args : List Text) : Text :=
  applyStores emptyBuff (joinStores args 0)

theorem joinedBuff_eq {args : List Text}
    (hinside : (joinLine args).length ≤ shellMaxCmdLen) :
    joinedBuff args = joinLine args ++
      List.replicate (shellMaxCmdLen - (joinLine args).length) '\x00' := by
  rw [joinedBuff, joinStores_eq, applyStores_copyStores]
  · simp [emptyBuff]
  · simpa [emptyBuff] using hinside

theorem length_applyStores (buff : Text) (stores : List (Nat × Char)) :
    (applyStores buff stores).length = buff.length := by
  induction stores generalizing buff with
  | nil => rfl
  | cons s stores ih =>
      change (applyStores (buff.set s.1 s.2) stores).length = _
      rw [ih, List.length_set]

/-! How long a command line may be. -/

/-- The bytes of the joined line: the arguments and the blanks between them. -/
def joinedLength (argv : List Text) : Nat :=
  (argv.tail.map List.length).sum + (argv.length - 2)

theorem joinedLength_eq (argv : List Text) :
    joinedLength argv = (joinLine argv.tail).length := by
  rw [length_joinLine, joinedLength, List.length_tail]
  omega

/-- Every store of the joining loop is inside the buffer, and behind the line
there is a NUL at which the tokeniser stops. -/
structure JoinInside (argv : List Text) : Prop where
  inside : ∀ s ∈ joinStores argv.tail 0, s.1 < shellMaxCmdLen
  terminated : ∃ i, joinedLength argv ≤ i ∧
    (joinedBuff argv.tail)[i]? = some '\x00'

/-- For every command line, accepted or not, joining it is safe if and only if
it leaves room for the NUL. -/
theorem join_inside_iff (argv : List Text) :
    JoinInside argv ↔ joinedLength argv < shellMaxCmdLen := by
  constructor
  · intro h
    obtain ⟨i, hi, hnul⟩ := h.terminated
    have hlt := (List.getElem?_eq_some_iff.mp hnul).1
    rw [joinedBuff, length_applyStores, emptyBuff, List.length_replicate] at hlt
    exact Nat.lt_of_le_of_lt hi hlt
  · intro hlt
    have hlength := joinedLength_eq argv
    constructor
    · rw [joinStores_eq, copyStores_inside_iff, ← hlength]
      intro k hk
      omega
    · refine ⟨joinedLength argv, le_rfl, ?_⟩
      rw [joinedBuff_eq (by omega), hlength, List.getElem?_append_right le_rfl,
        Nat.sub_self, List.getElem?_replicate]
      exact if_pos (by omega)

/-! The words of a line. -/

/-- A call of `strtok` leaves everything up to where it began. -/
theorem strtok_take {buff buff' : Text} {pos ptr pos' : Nat}
    (h : strtok buff pos = some (ptr, buff', pos')) :
    pos < pos' ∧ buff'.take (pos + 1) = buff.take (pos + 1) := by
  simp only [strtok] at h
  split_ifs at h with hstop hblank
  · obtain ⟨-, rfl, rfl⟩ := Option.some.inj h
    constructor
    · omega
    · exact List.take_set_of_le (by omega)
  · obtain ⟨-, rfl, rfl⟩ := Option.some.inj h
    constructor
    · omega
    · rfl

theorem interpretWords_take (room : Nat) (buff : Text) (pos : Nat)
    (args : List ShellVariant) :
    (interpretWords room buff pos args).2.1.take (pos + 1) =
      buff.take (pos + 1) := by
  induction room generalizing buff pos args with
  | zero => rfl
  | succ room ih =>
      rw [interpretWords]
      cases htok : strtok buff pos with
      | none => rfl
      | some next =>
          obtain ⟨ptr, buff', pos'⟩ := next
          obtain ⟨hless, htake⟩ := strtok_take htok
          dsimp only
          have hrest := ih buff' pos' (args ++ [shellVariant buff' ptr])
          have hshort := congrArg (List.take (pos + 1)) hrest
          rw [List.take_take, List.take_take,
            Nat.min_eq_left (by omega)] at hshort
          rw [hshort, htake]

/-- A word `strtok` can return. -/
structure Word (word : Text) : Prop where
  nonempty : word ≠ []
  plain : ∀ c ∈ word, c ≠ ' ' ∧ c ≠ '\x00'

theorem word_of_all {word : Text} (hnonempty : word ≠ [])
    (hall : word.all fun c => c ≠ ' ' ∧ c ≠ '\x00') : Word word := by
  constructor
  · exact hnonempty
  · intro c hc
    exact of_decide_eq_true (List.all_eq_true.mp hall c hc)

instance (word : Text) : Decidable (Word word) :=
  decidable_of_iff
    (word ≠ [] ∧ word.all fun c => c ≠ ' ' ∧ c ≠ '\x00')
    ⟨fun h => word_of_all h.1 h.2,
      fun h => ⟨h.nonempty, by simpa using h.plain⟩⟩

/-- The joined line begins with its first argument; where a NUL is in the
buffer, something is behind it. -/
theorem joinedBuff_cons {arg : Text} {rest : List Text} (hword : Word arg)
    (hroom : (joinLine (arg :: rest)).length ≤ shellMaxCmdLen)
    (hnul : '\x00' ∈ joinedBuff (arg :: rest)) :
    ∃ c tail, (c = ' ' ∨ c = '\x00') ∧
      joinedBuff (arg :: rest) = arg ++ c :: tail := by
  rw [joinedBuff_eq hroom] at hnul ⊢
  cases rest with
  | nil =>
      rw [List.mem_append, List.mem_replicate] at hnul
      have hcount := (hnul.resolve_left fun hmem =>
        (hword.plain _ hmem).2 rfl).1
      obtain ⟨n, hn⟩ := Nat.exists_eq_succ_of_ne_zero hcount
      rw [hn, List.replicate_succ]
      exact ⟨'\x00', List.replicate n '\x00', .inr rfl, rfl⟩
  | cons next rest =>
      rw [joinLine, List.append_assoc, List.cons_append]
      exact ⟨' ', _, .inl rfl, rfl⟩

theorem nul_mem_joinedBuff {args : List Text}
    (hroom : (joinLine args).length < shellMaxCmdLen) :
    '\x00' ∈ joinedBuff args := by
  rw [joinedBuff_eq hroom.le, List.mem_append, List.mem_replicate]
  exact .inr ⟨by omega, rfl⟩

theorem length_joinLine_le {args : List Text}
    (hinside : ∀ s ∈ joinStores args 0, s.1 < shellMaxCmdLen) :
    (joinLine args).length ≤ shellMaxCmdLen := by
  rw [joinStores_eq, copyStores_inside_iff] at hinside
  by_contra hlong
  have hlast := hinside shellMaxCmdLen (not_le.mp hlong)
  omega

theorem Word.takeWhile {word rest : Text} {c : Char} (hword : Word word)
    (hend : c = ' ' ∨ c = '\x00') :
    ((word ++ c :: rest).takeWhile fun c => decide (c ≠ ' ' ∧ c ≠ '\x00')) =
      word := by
  rw [List.takeWhile_append_of_pos, List.takeWhile_cons_of_neg,
    List.append_nil]
  · rcases hend with rfl | rfl <;> simp
  · intro c hc
    exact decide_eq_true (hword.plain c hc)

/-- `strtok` returns the word it is at, puts a NUL behind it and goes on behind
a blank. -/
theorem strtok_word {word : Text} {c : Char} (hword : Word word)
    (hend : c = ' ' ∨ c = '\x00') (front rest : Text) :
    strtok (front ++ (word ++ c :: rest)) front.length =
      some (front.length, front ++ (word ++ '\x00' :: rest),
        front.length + word.length + if c = ' ' then 1 else 0) := by
  have hblanks : (word ++ c :: rest).takeWhile (· = ' ') = [] := by
    cases word with
    | nil => exact absurd rfl hword.nonempty
    | cons first word =>
        have hplain := (hword.plain first List.mem_cons_self).1
        simp [hplain]
  have hlong : word.length ≠ 0 := by
    simpa using hword.nonempty
  have hat : (front ++ (word ++ c :: rest))[front.length + word.length]? =
      some c := by simp
  simp only [strtok, List.drop_left, hblanks, List.length_nil, Nat.add_zero,
    hword.takeWhile hend, Nat.add_eq_left, if_neg hlong, hat]
  rcases hend with rfl | rfl
  · simp
  · simp

theorem Word.cString_eq {word buff : Text} (hword : Word word) (front : Text)
    (htake : buff.take (front.length + word.length + 1) =
      front ++ (word ++ ['\x00'])) :
    cString buff front.length = word := by
  rw [cString, ← List.take_append_drop (front.length + word.length + 1) buff,
    htake, List.append_assoc, List.drop_left, List.append_assoc,
    List.takeWhile_append_of_pos]
  · simp
  · intro c hc
    exact decide_eq_true (hword.plain c hc).2

/-- The command is the first word of the line. -/
theorem interpretLine_cmd {word : Text} {c : Char} (hword : Word word)
    (hend : c = ' ' ∨ c = '\x00') (rest : Text) :
    (interpretLine (word ++ c :: rest)).cmd = some 0 ∧
      cString (interpretLine (word ++ c :: rest)).buff 0 = word := by
  have htok := strtok_word hword hend [] rest
  simp only [List.nil_append, List.length_nil, Nat.zero_add] at htok
  simp only [interpretLine, htok, true_and]
  apply hword.cString_eq []
  have hwords := interpretWords_take shellMaxArgs
    (word ++ '\x00' :: rest) (word.length + if c = ' ' then 1 else 0) []
  have hfirst := congrArg (List.take (word.length + 1)) hwords
  rw [List.take_take, List.take_take, Nat.min_eq_left (by omega)] at hfirst
  rw [List.length_nil, Nat.zero_add, hfirst]
  simp [List.take_append]

/-- The longest device path that `init_device_path` takes. -/
def longPath : Text := '/' :: List.replicate 254 'b'

def longPathLine : List Text :=
  [lit "lsufs", lit "uic", lit "-g", lit "-i", lit "0xf6", lit "-d", longPath]

/-- `parse_args` takes a path that the buffer has no room for. -/
theorem accepted_path_overflows :
    ¬ ∀ (argv : List Text) (result : LsufsOperation × List Note),
      lsufsParseArgs argv {} = .ok result → JoinInside argv := by
  intro h
  cases haccepted : lsufsParseArgs longPathLine {} with
  | error entries =>
      have hok : (lsufsParseArgs longPathLine {}).isOk = true := by
        decide +kernel
      rw [haccepted] at hok
      exact Bool.noConfusion hok
  | ok result =>
      have hlt := (join_inside_iff longPathLine).mp (h _ result haccepted)
      have hlong : ¬ joinedLength longPathLine < shellMaxCmdLen := by
        decide +kernel
      exact hlong hlt

end UfsTools
