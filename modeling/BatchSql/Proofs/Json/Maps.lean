import BatchSql.Codec.Json
import BatchSql.Proofs.Value.Texts

namespace BatchSql

theorem JsonForm.readInt64_ofInt (n : Int64) : readInt64 (Json.ofInt n.toInt) = some n := by
  have hlow : -2 ^ 63 ≤ n.toInt := n.le_toInt
  have hhigh : n.toInt ≤ 2 ^ 63 - 1 := by
    have := n.toInt_lt
    omega
  rw [readInt64, Value.intWithin_ofInt hlow hhigh (by decide) (by decide), Option.map_some,
    Int64.ofInt_toInt]

namespace JsonForm

section Map

variable {κ : Type} {key : KeyForm κ}

/-- A key is read back from its name. -/
def KeyForm.Faithful (key : KeyForm κ) : Prop :=
  ∀ k, key.read (key.name k) = some k

theorem KeyForm.faithful_text : KeyForm.text.Faithful :=
  fun _ => rfl

theorem KeyForm.faithful_integer : KeyForm.integer.Faithful := by
  intro n
  have low : -2 ^ 63 ≤ n.toInt := n.le_toInt
  have high : n.toInt < 2 ^ 64 := by
    have := n.toInt_lt
    omega
  have hread := Json.Numeral.read_chars (Json.Numeral.proper_ofInt n.toInt) Json.ends_nil
  rw [List.append_nil, Json.Numeral.chars_ofInt] at hread
  have hnumber : Json.Reader.number? (Value.intText n.toInt) =
      some (.number (.integer n.toInt low high), []) := by
    rw [Json.Reader.number?, Value.intText, hread]
    simp only [Option.bind_eq_bind, Option.bind_some, Json.Numeral.number_ofInt low high]
    rfl
  have hvalue := readInt64_ofInt n
  rw [Json.ofInt_eq low high] at hvalue
  simp only [integer, String.toList_ofList, hnumber]
  exact hvalue

theorem mapFields_integers (key : KeyForm κ) (m : IntMap κ) :
    Json.FieldNumbers Json.Number.IsInteger (mapFields key m) := by
  rw [mapFields]
  induction m.entries with
  | nil => trivial
  | cons e entries ih =>
    have low : -2 ^ 63 ≤ e.2.toInt := e.2.le_toInt
    have high : e.2.toInt < 2 ^ 64 := by
      have := e.2.toInt_lt
      omega
    refine ⟨?_, ih⟩
    rw [Json.ofInt_eq low high]
    trivial

theorem reads_map (key : KeyForm κ) (m : IntMap κ) :
    Json.Reads (Json.object (mapFields key m)).text (Json.object (mapFields key m)).depth
      (some (.object (mapFields key m))) := by
  have hreads := Json.reads_text (.object (mapFields key m))
  rwa [Json.reread_of_integers (.object (mapFields key m)) (mapFields_integers key m)] at hreads

variable [DecidableEq κ]

/-- Entries under new keys are put behind those that are there. -/
theorem readEntries_fields (hkey : key.Faithful) {m : IntMap κ} {entries : List (κ × Int64)}
    (h : ((m.entries ++ entries).map Prod.fst).Nodup) :
    readEntries key m (entries.map fun e => (key.name e.1, Json.ofInt e.2.toInt)) =
      some ⟨m.entries ++ entries, h⟩ := by
  induction entries generalizing m with
  | nil => simp [readEntries]
  | cons e entries ih =>
    have hnew : e.1 ∉ m.entries.map Prod.fst := by
      rw [List.map_append, List.map_cons] at h
      intro hold
      exact (List.nodup_append.mp h).2.2 _ hold _ List.mem_cons_self rfl
    have hput : (m.put e.1 e.2).entries = m.entries ++ [e] := Assoc.put_of_notMem e.2 hnew
    have hsplit : m.entries ++ e :: entries = (m.put e.1 e.2).entries ++ entries := by
      rw [hput, List.append_assoc, List.singleton_append]
    have hrest : (((m.put e.1 e.2).entries ++ entries).map Prod.fst).Nodup := by
      rw [← hsplit]
      exact h
    rw [List.map_cons, readEntries, hkey, readInt64_ofInt]
    change readEntries key (m.put e.1 e.2) _ = _
    rw [ih hrest]
    simp only [hsplit]

theorem read_mapFields (hkey : key.Faithful) (m : IntMap κ) :
    (map key).read (.object (mapFields key m)) = some m :=
  readEntries_fields (m := .empty) hkey m.distinct

theorem IntMap.same_self (m : IntMap κ) : m.same m = true := by
  rw [same, beq_self_eq_true, Bool.true_and, List.all_eq_true]
  rintro ⟨k, v⟩ he
  rw [(Assoc.mem_iff_get? m.distinct k v).mp he, beq_self_eq_true]

end Map

end JsonForm

end BatchSql
