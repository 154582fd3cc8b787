import BatchSql.Proofs.Text.Digits
import BatchSql.Text.Quoted

namespace BatchSql.Text

theorem hexDigit_digitChar : ∀ n < 16, hexDigit? n.digitChar = some n := by
  decide

theorem hexValue_toDigits (n : Nat) : hexValue (Nat.toDigits 16 n) = n := by
  induction n using Nat.strongRecOn with
  | ind n ih =>
    by_cases hn : n < 16
    · rw [Nat.toDigits_of_lt_base hn, hexValue, List.foldl_cons, hexDigit_digitChar n hn]
      simp
    · have hlast := hexDigit_digitChar (n % 16) (Nat.mod_lt n (by decide))
      have hfront := ih (n / 16) (by omega)
      rw [hexValue] at hfront
      rw [Nat.toDigits_eq_if (by decide), if_neg hn, hexValue, List.foldl_append, hfront,
        List.foldl_cons, hlast]
      simp only [List.foldl_nil, Option.getD_some]
      omega

theorem brace_notMem_toDigits (n : Nat) : '\x7d' ∉ Nat.toDigits 16 n := by
  have hdigit : ∀ d < 16, '\x7d' ≠ Nat.digitChar d := by decide
  induction n using Nat.strongRecOn with
  | ind n ih =>
    by_cases hn : n < 16
    · rw [Nat.toDigits_of_lt_base hn, List.mem_singleton]
      exact hdigit n hn
    · rw [Nat.toDigits_eq_if (by decide), if_neg hn, List.mem_append, List.mem_singleton]
      rintro (hfront | hlast)
      · exact ih (n / 16) (by omega) hfront
      · exact hdigit (n % 16) (Nat.mod_lt n (by decide)) hlast

/-- What a letter or a mark behind a backslash stands for. -/
def unescapedMark (c : Char) : Char :=
  if c = 'n' then '\n'
  else if c = 'r' then '\r'
  else if c = 't' then '\t'
  else if c = '0' then Char.ofNat 0
  else c

/-- The character that an escaped text begins with, and the rest. -/
def unescaped? : List Char → Option (Char × List Char)
  | [] => none
  | c :: cs =>
    if c ≠ '\\' then some (c, cs)
    else
      match cs with
      | 'u' :: _ :: r =>
        some (Char.ofNat (hexValue (r.takeWhile (· != '\x7d'))), (r.dropWhile (· != '\x7d')).drop 1)
      | m :: r => some (unescapedMark m, r)
      | [] => none

theorem unescaped_code (n : Nat) (rest : List Char) :
    unescaped? ('\\' :: 'u' :: '\x7b' :: (Nat.toDigits 16 n ++ '\x7d' :: rest)) =
      some (Char.ofNat n, rest) := by
  have hdigits : ∀ c ∈ Nat.toDigits 16 n, (c != '\x7d') = true := by
    intro c hc
    rw [bne_iff_ne]
    rintro rfl
    exact brace_notMem_toDigits n hc
  have hvalue : (Nat.toDigits 16 n ++ '\x7d' :: rest).takeWhile (· != '\x7d') =
      Nat.toDigits 16 n := by
    rw [List.takeWhile_append_of_pos hdigits, List.takeWhile_cons_of_neg (by decide),
      List.append_nil]
  have hrest : (Nat.toDigits 16 n ++ '\x7d' :: rest).dropWhile (· != '\x7d') = '\x7d' :: rest := by
    rw [List.dropWhile_append_of_pos hdigits, List.dropWhile_cons_of_neg (by decide)]
  rw [unescaped?, if_neg (by decide), hvalue, hrest, hexValue_toDigits]
  rfl

theorem unescaped_escapeChar (c : Char) (rest : List Char) :
    unescaped? (escapeChar c ++ rest) = some (c, rest) := by
  rcases Decidable.em (c = '"') with rfl | hquote
  · rfl
  rcases Decidable.em (c = '\\') with rfl | hbackslash
  · rfl
  rcases Decidable.em (c = '\n') with rfl | hnewline
  · rfl
  rcases Decidable.em (c = '\r') with rfl | hreturn
  · rfl
  rcases Decidable.em (c = '\t') with rfl | htab
  · rfl
  rcases Decidable.em (c = Char.ofNat 0) with rfl | hzero
  · rfl
  rw [escapeChar, if_neg hquote, if_neg hbackslash, if_neg hnewline, if_neg hreturn, if_neg htab,
    if_neg hzero]
  split
  · have hcode := unescaped_code c.toNat rest
    rw [Char.ofNat_toNat] at hcode
    rw [hex, String.toList_ofList]
    simpa using hcode
  · exact if_pos hbackslash

theorem flatMap_escapeChar_inj {cs ds : List Char} :
    cs.flatMap escapeChar = ds.flatMap escapeChar ↔ cs = ds := by
  constructor
  · intro h
    induction cs generalizing ds with
    | nil =>
      cases ds with
      | nil => rfl
      | cons d ds =>
        have hread := congrArg unescaped? h
        rw [List.flatMap_cons, unescaped_escapeChar] at hread
        cases hread
    | cons c cs ih =>
      cases ds with
      | nil =>
        have hread := congrArg unescaped? h
        rw [List.flatMap_cons, unescaped_escapeChar] at hread
        cases hread
      | cons d ds =>
        have hread := congrArg unescaped? h
        rw [List.flatMap_cons, List.flatMap_cons, unescaped_escapeChar, unescaped_escapeChar]
          at hread
        obtain ⟨rfl, hrest⟩ := Prod.mk.inj (Option.some.inj hread)
        rw [ih hrest]
  · rintro rfl
    rfl

/-- A quoted text shows all that it holds. -/
theorem quoted_inj {s t : String} : quoted s = quoted t ↔ s = t := by
  rw [quoted, quoted, String.ofList_inj, List.append_left_inj, List.cons_inj_right,
    flatMap_escapeChar_inj, String.toList_inj]

end BatchSql.Text
