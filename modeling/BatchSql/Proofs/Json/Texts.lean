import BatchSql.Proofs.Encoding.Utf8
import BatchSql.Proofs.Json.Numerals

namespace BatchSql.Json

open Text

namespace Reader

theorem skipSpace_cons {c : Char} (cs : List Char) (h : isSpace c = false) :
    skipSpace (c :: cs) = c :: cs := by
  rw [skipSpace, List.dropWhile_cons, if_neg (by simp [h])]

/-- A control is written as the four digits of its code. -/
theorem quoted_control {c : Char} (h : c < ' ') (cs : List Char) :
    quoted .plain ('\\' :: 'u' :: '0' :: '0' :: hexChar (c.toNat / 16) ::
        hexChar (c.toNat % 16) :: cs) =
      (quoted .plain cs).map fun (s, r) => (c :: s, r) := by
  have hc : c.toNat < 32 := h
  have hzero : hexDigit? '0' = some 0 := rfl
  have hhigh : hexDigit? (hexChar (c.toNat / 16)) = some (c.toNat / 16) :=
    hexDigit_hexChar (by omega)
  have hlow : hexDigit? (hexChar (c.toNat % 16)) = some (c.toNat % 16) :=
    hexDigit_hexChar (Nat.mod_lt _ (by decide))
  have hunit : c.toNat / 16 * 16 + c.toNat % 16 = c.toNat := by omega
  have hmeaning : unitMeaning none c.toNat = .char c := by
    rw [unitMeaning, if_neg (by omega), if_neg (by omega), Char.ofNat_toNat]
  rw [quoted, if_neg (by decide), if_pos rfl, quoted, if_pos rfl]
  simp only [quoted, hzero, hhigh, hlow, Option.bind_some, Nat.zero_mul, Nat.add_zero,
    Nat.zero_add, Nat.reduceSub, Nat.reduceLT, if_true, if_false, hunit, hmeaning]

/-- A character is read back from what it is written as. -/
theorem quoted_escape (c : Char) (cs : List Char) :
    quoted .plain (escape c ++ cs) = (quoted .plain cs).map fun (s, r) => (c :: s, r) := by
  have hescaped {e : Char} (he : escaped? e = some c) (hu : e ≠ 'u') :
      quoted .plain ('\\' :: e :: cs) = (quoted .plain cs).map fun (s, r) => (c :: s, r) := by
    rw [quoted, if_neg (by decide), if_pos rfl, quoted, if_neg hu, if_neg (by simp), he,
      Option.bind_some]
  rw [escape]
  split
  · rename_i h
    exact hescaped (by rw [h]; rfl) (by decide)
  · rename_i hquote
    split
    · rename_i h
      exact hescaped (by rw [h]; rfl) (by decide)
    · rename_i hback
      split
      · rename_i h
        exact hescaped (by rw [h]; rfl) (by decide)
      · split
        · rename_i h
          exact hescaped (by rw [h]; rfl) (by decide)
        · split
          · rename_i h
            exact hescaped (by rw [h]; rfl) (by decide)
          · split
            · rename_i h
              exact hescaped (by rw [h]; rfl) (by decide)
            · split
              · rename_i h
                exact hescaped (by rw [h]; rfl) (by decide)
              · split
                · rename_i h
                  exact quoted_control h cs
                · rename_i hplain
                  rw [List.singleton_append, quoted, if_neg hquote, if_neg hback, if_neg hplain]

theorem quoted_escapes (cs rest : List Char) :
    quoted .plain (cs.flatMap escape ++ '"' :: rest) = some (cs, rest) := by
  induction cs with
  | nil => rfl
  | cons c cs ih => rw [List.flatMap_cons, List.append_assoc, quoted_escape, ih, Option.map_some]

theorem string_quotedText (s : String) (rest : List Char) :
    string? (quotedText s ++ rest) = some (s, rest) := by
  have htext : quotedText s ++ rest = '"' :: (s.toList.flatMap escape ++ '"' :: rest) := by
    simp [quotedText]
  rw [htext, string?, quoted_escapes, Option.map_some]
  change some (String.ofList s.toList, rest) = _
  rw [String.ofList_toList]

theorem value_quote (fuel levels : Nat) (cs : List Char) :
    value (fuel + 1) levels ('"' :: cs) = (string? ('"' :: cs)).map fun (s, r) => (.string s, r) :=
  rfl

/-- What is behind an opening bracket. -/
def bracketed (fuel levels : Nat) : List Char → Option (Json × List Char)
  | ']' :: r => some (.array [], r)
  | r => (items fuel levels r).map fun (js, r) => (.array js, r)

theorem bracketed_of_ne (fuel levels : Nat) {c : Char} (cs : List Char) (hc : c ≠ ']') :
    bracketed fuel levels (c :: cs) =
      (items fuel levels (c :: cs)).map fun (js, r) => (.array js, r) := by
  rw [bracketed.eq_def]
  split
  · rename_i r he
    exact absurd (List.cons.inj he).1 hc
  · rfl

theorem value_bracket (fuel levels : Nat) {c : Char} (cs : List Char) (h : isSpace c = false)
    (hc : c ≠ ']') :
    value (fuel + 1) (levels + 1) ('[' :: c :: cs) =
      (items fuel levels (c :: cs)).map fun (js, r) => (.array js, r) := by
  change bracketed fuel levels (skipSpace (c :: cs)) = _
  rw [skipSpace_cons cs h, bracketed_of_ne fuel levels cs hc]

/-- What is behind an opening brace. -/
def braced (fuel levels : Nat) : List Char → Option (Json × List Char)
  | '\x7d' :: r => some (.object [], r)
  | r => (fields fuel levels r).map fun (fs, r) => (.object fs, r)

theorem braced_of_ne (fuel levels : Nat) {c : Char} (cs : List Char) (hc : c ≠ '\x7d') :
    braced fuel levels (c :: cs) =
      (fields fuel levels (c :: cs)).map fun (fs, r) => (.object fs, r) := by
  rw [braced.eq_def]
  split
  · rename_i r he
    exact absurd (List.cons.inj he).1 hc
  · rfl

theorem value_brace (fuel levels : Nat) {c : Char} (cs : List Char) (h : isSpace c = false)
    (hc : c ≠ '\x7d') :
    value (fuel + 1) (levels + 1) ('\x7b' :: c :: cs) =
      (fields fuel levels (c :: cs)).map fun (fs, r) => (.object fs, r) := by
  change braced fuel levels (skipSpace (c :: cs)) = _
  rw [skipSpace_cons cs h, braced_of_ne fuel levels cs hc]

theorem ne_of_number {c e : Char} (h : c = '-' ∨ isDigit c = true)
    (he : e ≠ '-' ∧ isDigit e = false) : c ≠ e := by
  rintro rfl
  rcases h with rfl | hdigit
  · exact he.1 rfl
  · rw [he.2] at hdigit
    cases hdigit

theorem not_isSpace_of_number {c : Char} (h : c = '-' ∨ isDigit c = true) :
    isSpace c = false := by
  rw [isSpace]
  simp [ne_of_number (e := ' ') h (by decide), ne_of_number (e := '\t') h (by decide),
    ne_of_number (e := '\n') h (by decide), ne_of_number (e := '\r') h (by decide)]

/-- A sign or a digit begins a number. -/
theorem value_number (fuel levels : Nat) {c : Char} (cs : List Char)
    (h : c = '-' ∨ isDigit c = true) : value (fuel + 1) levels (c :: cs) = number? (c :: cs) := by
  rw [value, skipSpace_cons cs (not_isSpace_of_number h)]
  split
  · rename_i he
    cases he
  · rename_i r he
    exact absurd (List.cons.inj he).1 (ne_of_number h (by decide))
  · rename_i r he
    exact absurd (List.cons.inj he).1 (ne_of_number h (by decide))
  · rename_i r he
    exact absurd (List.cons.inj he).1 (ne_of_number h (by decide))
  · rename_i r he
    exact absurd (List.cons.inj he).1 (ne_of_number h (by decide))
  · rename_i r he
    exact absurd (List.cons.inj he).1 (ne_of_number h (by decide))
  · rename_i r he
    exact absurd (List.cons.inj he).1 (ne_of_number h (by decide))
  · rfl

end Reader

open Reader

/-- A value, and nothing that closes an array or an object, may begin with this. -/
def Begins (c : Char) : Prop :=
  isSpace c = false ∧ c ≠ ']' ∧ c ≠ '\x7d'

instance (c : Char) : Decidable (Begins c) :=
  inferInstanceAs (Decidable (_ ∧ _))

/-- What the reader makes of a text, whatever ends it: `result`, if as many arrays and objects may
open as are open inside each other there, and nothing else. -/
structure Reads (cs : List Char) (depth : Nat) (result : Option Json) : Prop where
  head : ∃ c tail, cs = c :: tail ∧ Begins c
  read : ∀ fuel levels rest, 2 * cs.length ≤ fuel → Ends rest →
    value fuel levels (cs ++ rest) = if depth ≤ levels then result.map (·, rest) else none

/-- The same of items up to the closing bracket. -/
structure ReadsItems (cs : List Char) (depth : Nat) (result : Option (List Json)) : Prop where
  head : ∃ c tail, cs = c :: tail ∧ Begins c
  read : ∀ fuel levels rest, 2 * cs.length + 1 ≤ fuel →
    Reader.items fuel levels (cs ++ rest) = if depth ≤ levels then result.map (·, rest) else none

/-- The same of fields up to the closing brace. -/
structure ReadsFields (cs : List Char) (depth : Nat) (result : Option (List (String × Json))) :
    Prop where
  head : ∃ c tail, cs = c :: tail ∧ Begins c
  read : ∀ fuel levels rest, 2 * cs.length + 1 ≤ fuel →
    fields fuel levels (cs ++ rest) = if depth ≤ levels then result.map (·, rest) else none

section Reads

variable {cs ts : List Char} {depth depth' : Nat} {result : Option Json}

theorem reads_null : Reads null.text 0 (some null) where
  head := ⟨'n', _, rfl, by decide⟩
  read fuel levels rest hfuel _ := by
    obtain ⟨fuel, rfl⟩ : ∃ k, fuel = k + 1 := ⟨fuel - 1, by simp [text] at hfuel; omega⟩
    rfl

theorem reads_bool (b : Bool) : Reads (bool b).text 0 (some (bool b)) := by
  cases b with
  | true =>
    refine ⟨⟨'t', _, rfl, by decide⟩, ?_⟩
    intro fuel levels rest hfuel _
    obtain ⟨fuel, rfl⟩ : ∃ k, fuel = k + 1 := ⟨fuel - 1, by simp [text] at hfuel; omega⟩
    rfl
  | false =>
    refine ⟨⟨'f', _, rfl, by decide⟩, ?_⟩
    intro fuel levels rest hfuel _
    obtain ⟨fuel, rfl⟩ : ∃ k, fuel = k + 1 := ⟨fuel - 1, by simp [text] at hfuel; omega⟩
    rfl

theorem reads_string (s : String) : Reads (quotedText s) 0 (some (string s)) where
  head := ⟨'"', _, rfl, by decide⟩
  read fuel levels rest hfuel _ := by
    obtain ⟨fuel, rfl⟩ : ∃ k, fuel = k + 1 := ⟨fuel - 1, by simp [quotedText] at hfuel; omega⟩
    have htext := string_quotedText s rest
    rw [quotedText, List.cons_append, List.cons_append] at htext ⊢
    rw [value_quote, htext, if_pos (Nat.zero_le levels)]
    rfl

theorem reads_numeral {n : Numeral} (h : n.Proper) : Reads n.chars 0 (n.number?.map number) := by
  obtain ⟨c, tail, hchars, hc⟩ := Numeral.chars_head h
  have hbegins : Begins c :=
    ⟨not_isSpace_of_number hc, ne_of_number hc (by decide), ne_of_number hc (by decide)⟩
  refine ⟨⟨c, tail, hchars, hbegins⟩, ?_⟩
  intro fuel levels rest hfuel hrest
  obtain ⟨fuel, rfl⟩ : ∃ k, fuel = k + 1 := ⟨fuel - 1, by simp [hchars] at hfuel; omega⟩
  have hread := Numeral.read_chars h hrest
  rw [hchars, List.cons_append] at hread ⊢
  rw [value_number fuel levels _ hc, number?, hread, if_pos (Nat.zero_le levels)]
  cases hn : n.number? with
  | none => simp [hn]
  | some v => simp [hn]

/-- An integer of 64 bits is read as it is. -/
theorem reads_integer {v : Int} (low : -2 ^ 63 ≤ v) (high : v < 2 ^ 64) :
    Reads (toString v).toList 0 (some (number (.integer v low high))) := by
  have hreads := reads_numeral (Numeral.proper_ofInt v)
  rw [Numeral.chars_ofInt, Numeral.number_ofInt low high] at hreads
  exact hreads

/-- What the text of a float is read as: its digits if it is finite, and null if not. -/
def floatForm {f : BinaryFormat} (style : FloatStyle) (x : Binary f) : Option Json :=
  if x.isFinite then (floatNumeral style x).number?.map number else some null

theorem reads_floatText {f : BinaryFormat} (style : FloatStyle) (x : Binary f) :
    Reads (floatText style x) 0 (floatForm style x) := by
  rw [floatText, floatForm]
  split
  · rw [finiteText_eq]
    exact reads_numeral (proper_floatNumeral style x)
  · exact reads_null

theorem reads_emptyArray : Reads (array []).text 1 (some (array [])) where
  head := ⟨'[', _, rfl, by decide⟩
  read fuel levels rest hfuel _ := by
    obtain ⟨fuel, rfl⟩ : ∃ k, fuel = k + 1 := ⟨fuel - 1, by simp [text] at hfuel; omega⟩
    cases levels with
    | zero => rfl
    | succ levels => rfl

theorem reads_emptyObject : Reads (object []).text 1 (some (object [])) where
  head := ⟨'\x7b', _, rfl, by decide⟩
  read fuel levels rest hfuel _ := by
    obtain ⟨fuel, rfl⟩ : ∃ k, fuel = k + 1 := ⟨fuel - 1, by simp [text] at hfuel; omega⟩
    cases levels with
    | zero => rfl
    | succ levels => rfl

theorem reads_array {js : Option (List Json)} (h : ReadsItems cs depth js) :
    Reads ('[' :: cs) (depth + 1) (js.map array) where
  head := ⟨'[', _, rfl, by decide⟩
  read fuel levels rest hfuel _ := by
    obtain ⟨fuel, rfl⟩ : ∃ k, fuel = k + 1 := ⟨fuel - 1, by simp at hfuel; omega⟩
    cases levels with
    | zero => rfl
    | succ levels =>
      obtain ⟨c, tail, hcs, hspace, hc, _⟩ := h.head
      have hitems := h.read fuel levels rest (by simp at hfuel; omega)
      rw [hcs, List.cons_append] at hitems
      rw [hcs, List.cons_append, List.cons_append, value_bracket fuel levels _ hspace hc, hitems]
      by_cases hdepth : depth ≤ levels
      · rw [if_pos hdepth, if_pos (Nat.succ_le_succ hdepth)]
        cases js with
        | none => rfl
        | some js => rfl
      · rw [if_neg hdepth, if_neg (mt Nat.le_of_succ_le_succ hdepth)]
        rfl

theorem reads_object {fs : Option (List (String × Json))} (h : ReadsFields cs depth fs) :
    Reads ('\x7b' :: cs) (depth + 1) (fs.map object) where
  head := ⟨'\x7b', _, rfl, by decide⟩
  read fuel levels rest hfuel _ := by
    obtain ⟨fuel, rfl⟩ : ∃ k, fuel = k + 1 := ⟨fuel - 1, by simp at hfuel; omega⟩
    cases levels with
    | zero => rfl
    | succ levels =>
      obtain ⟨c, tail, hcs, hspace, _, hc⟩ := h.head
      have hfields := h.read fuel levels rest (by simp at hfuel; omega)
      rw [hcs, List.cons_append] at hfields
      rw [hcs, List.cons_append, List.cons_append, value_brace fuel levels _ hspace hc, hfields]
      by_cases hdepth : depth ≤ levels
      · rw [if_pos hdepth, if_pos (Nat.succ_le_succ hdepth)]
        cases fs with
        | none => rfl
        | some fs => rfl
      · rw [if_neg hdepth, if_neg (mt Nat.le_of_succ_le_succ hdepth)]
        rfl

/-- The last item, before the closing bracket. -/
theorem reads_lastItem (h : Reads cs depth result) :
    ReadsItems (cs ++ [']']) depth (result.map fun j => [j]) where
  head := by
    obtain ⟨c, tail, rfl, hc⟩ := h.head
    exact ⟨c, _, rfl, hc⟩
  read fuel levels rest hfuel := by
    obtain ⟨fuel, rfl⟩ : ∃ k, fuel = k + 1 := ⟨fuel - 1, by simp at hfuel; omega⟩
    have hvalue := h.read fuel levels (']' :: rest) (by simp at hfuel; omega)
      (ends_cons (.inr (.inl rfl)))
    rw [List.append_assoc, List.singleton_append, Reader.items, hvalue]
    by_cases hdepth : depth ≤ levels
    · rw [if_pos hdepth, if_pos hdepth]
      cases result with
      | none => rfl
      | some j => rfl
    · rw [if_neg hdepth, if_neg hdepth]
      rfl

/-- An item before others. -/
theorem reads_item {js : Option (List Json)} (h : Reads cs depth result)
    (hrest : ReadsItems ts depth' js) :
    ReadsItems (cs ++ ',' :: ts) (max depth depth')
      (result.bind fun j => js.map fun js => j :: js) where
  head := by
    obtain ⟨c, tail, rfl, hc⟩ := h.head
    exact ⟨c, _, rfl, hc⟩
  read fuel levels rest hfuel := by
    obtain ⟨fuel, rfl⟩ : ∃ k, fuel = k + 1 := ⟨fuel - 1, by simp at hfuel; omega⟩
    have hlength : 0 < cs.length := by
      obtain ⟨c, tail, rfl, _⟩ := h.head
      exact Nat.succ_pos _
    have hvalue := h.read fuel levels (',' :: (ts ++ rest)) (by simp at hfuel; omega)
      (ends_cons (.inl rfl))
    have hitems := hrest.read fuel levels rest (by simp at hfuel; omega)
    rw [List.append_assoc, List.cons_append, Reader.items, hvalue]
    by_cases hdepth : depth ≤ levels
    · rw [if_pos hdepth]
      cases result with
      | none => simp
      | some j =>
        change (do let (js, r) ← Reader.items fuel levels (ts ++ rest); pure (j :: js, r)) = _
        rw [hitems]
        by_cases hdepth' : depth' ≤ levels
        · rw [if_pos hdepth', if_pos (Nat.max_le.mpr ⟨hdepth, hdepth'⟩)]
          cases js with
          | none => rfl
          | some js => rfl
        · rw [if_neg hdepth', if_neg (mt (fun hmax => (Nat.max_le.mp hmax).2) hdepth')]
          rfl
    · rw [if_neg hdepth, if_neg (mt (fun hmax => (Nat.max_le.mp hmax).1) hdepth)]
      rfl

theorem fields_quotedText (fuel levels : Nat) (name : String) (cs : List Char) :
    fields (fuel + 1) levels (quotedText name ++ ':' :: cs) = (do
      let (j, r) ← value fuel levels cs
      match skipSpace r with
      | ',' :: r => let (fs, r) ← fields fuel levels r; pure ((name, j) :: fs, r)
      | '\x7d' :: r => pure ([(name, j)], r)
      | _ => none) := by
  have hspace : skipSpace (quotedText name ++ ':' :: cs) = quotedText name ++ ':' :: cs :=
    skipSpace_cons _ (by decide)
  rw [fields, hspace, string_quotedText]
  rfl

/-- The last field, before the closing brace. -/
theorem reads_lastField (name : String) (h : Reads cs depth result) :
    ReadsFields (quotedText name ++ ':' :: cs ++ ['\x7d']) depth
      (result.map fun j => [(name, j)]) where
  head := ⟨'"', _, rfl, by decide⟩
  read fuel levels rest hfuel := by
    obtain ⟨fuel, rfl⟩ : ∃ k, fuel = k + 1 := ⟨fuel - 1, by simp at hfuel; omega⟩
    have hvalue := h.read fuel levels ('\x7d' :: rest) (by simp at hfuel; omega)
      (ends_cons (.inr (.inr rfl)))
    rw [List.append_assoc, List.append_assoc, List.cons_append, List.singleton_append,
      fields_quotedText, hvalue]
    by_cases hdepth : depth ≤ levels
    · rw [if_pos hdepth, if_pos hdepth]
      cases result with
      | none => rfl
      | some j => rfl
    · rw [if_neg hdepth, if_neg hdepth]
      rfl

/-- A field before others. -/
theorem reads_field {fs : Option (List (String × Json))} (name : String)
    (h : Reads cs depth result) (hrest : ReadsFields ts depth' fs) :
    ReadsFields (quotedText name ++ ':' :: cs ++ ',' :: ts) (max depth depth')
      (result.bind fun j => fs.map fun fs => (name, j) :: fs) where
  head := ⟨'"', _, rfl, by decide⟩
  read fuel levels rest hfuel := by
    obtain ⟨fuel, rfl⟩ : ∃ k, fuel = k + 1 := ⟨fuel - 1, by simp at hfuel; omega⟩
    have hvalue := h.read fuel levels (',' :: (ts ++ rest)) (by simp at hfuel; omega)
      (ends_cons (.inl rfl))
    have hfields := hrest.read fuel levels rest (by simp at hfuel; omega)
    rw [List.append_assoc, List.append_assoc, List.cons_append, List.cons_append,
      fields_quotedText, hvalue]
    by_cases hdepth : depth ≤ levels
    · rw [if_pos hdepth]
      cases result with
      | none => simp
      | some j =>
        change (do let (fs, r) ← fields fuel levels (ts ++ rest); pure ((name, j) :: fs, r)) = _
        rw [hfields]
        by_cases hdepth' : depth' ≤ levels
        · rw [if_pos hdepth', if_pos (Nat.max_le.mpr ⟨hdepth, hdepth'⟩)]
          cases fs with
          | none => rfl
          | some fs => rfl
        · rw [if_neg hdepth', if_neg (mt (fun hmax => (Nat.max_le.mp hmax).2) hdepth')]
          rfl
    · rw [if_neg hdepth, if_neg (mt (fun hmax => (Nat.max_le.mp hmax).1) hdepth)]
      rfl

/-- A whole text. -/
theorem Reads.within (h : Reads cs depth result) (levels : Nat) :
    readWithin levels cs = if depth ≤ levels then result else none := by
  have hvalue := h.read (2 * cs.length + 2) levels [] (Nat.le_add_right _ 2) ends_nil
  rw [List.append_nil] at hvalue
  rw [readWithin, hvalue]
  by_cases hdepth : depth ≤ levels
  · rw [if_pos hdepth, if_pos hdepth]
    cases result with
    | none => rfl
    | some j => rfl
  · rw [if_neg hdepth, if_neg hdepth]

/-- A whole text in UTF-8. -/
theorem Reads.octets (h : Reads cs depth result) :
    ofOctets? (Utf8.encode cs) = if depth ≤ maxLevels then result else none := by
  have hdecode : Utf8.decode (Utf8.encode cs) = .ok cs := Utf8.run_encode cs 0
  rw [ofOctets?, hdecode]
  exact h.within maxLevels

end Reads

mutual

/-- A document as its text is read: its integers stay as they are, and of its floats the digits are
read. -/
def reread : Json → Option Json
  | array items => (rereadItems items).map array
  | object fields => (rereadFields fields).map object
  | number n => n.reread.map number
  | null => some null
  | bool b => some (bool b)
  | string s => some (string s)

def rereadItems : List Json → Option (List Json)
  | [] => some []
  | j :: rest => (reread j).bind fun j => (rereadItems rest).map fun js => j :: js

def rereadFields : List (String × Json) → Option (List (String × Json))
  | [] => some []
  | (name, j) :: rest => (reread j).bind fun j => (rereadFields rest).map fun fs => (name, j) :: fs

end

mutual

/-- The text of a document is read as the document, but for its floats. -/
theorem reads_text (j : Json) : Reads j.text j.depth j.reread := by
  cases j with
  | null => exact reads_null
  | bool b => exact reads_bool b
  | number n =>
    rw [text, Number.text_eq]
    exact reads_numeral n.proper_numeral
  | string s => exact reads_string s
  | array items =>
    cases items with
    | nil => exact reads_emptyArray
    | cons j rest => exact reads_array (reads_itemsText (j :: rest) nofun)
  | object fields =>
    cases fields with
    | nil => exact reads_emptyObject
    | cons f rest => exact reads_object (reads_fieldsText (f :: rest) nofun)

theorem reads_itemsText (items : List Json) (h : items ≠ []) :
    ReadsItems (itemsText items) (itemsDepth items) (rereadItems items) := by
  match items with
  | [] => exact absurd rfl h
  | [j] =>
    have hlast := reads_lastItem (reads_text j)
    rw [itemsDepth, itemsDepth, Nat.max_zero, rereadItems]
    cases hj : reread j with
    | none => rwa [hj] at hlast
    | some k => rwa [hj] at hlast
  | j :: k :: rest => exact reads_item (reads_text j) (reads_itemsText (k :: rest) nofun)

theorem reads_fieldsText (fields : List (String × Json)) (h : fields ≠ []) :
    ReadsFields (fieldsText fields) (fieldsDepth fields) (rereadFields fields) := by
  match fields with
  | [] => exact absurd rfl h
  | [(name, j)] =>
    have hlast := reads_lastField name (reads_text j)
    rw [fieldsDepth, fieldsDepth, Nat.max_zero, rereadFields]
    cases hj : reread j with
    | none => rwa [hj] at hlast
    | some k => rwa [hj] at hlast
  | (name, j) :: f :: rest =>
    exact reads_field name (reads_text j) (reads_fieldsText (f :: rest) nofun)

end

end BatchSql.Json
