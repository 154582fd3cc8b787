import BatchSql.Uuid
import BatchSql.Proofs.Text.Digits

namespace BatchSql

open Text

namespace Octets

@[simp] theorem hexText_nil : hexText [] = [] := rfl

@[simp] theorem hexText_cons (b : UInt8) (bs : Octets) :
    hexText (b :: bs) = hexChar (b.toNat / 16) :: hexChar (b.toNat % 16) :: hexText bs := rfl

theorem length_hexText (bs : Octets) : bs.hexText.length = 2 * bs.length := by
  induction bs with
  | nil => rfl
  | cons b bs ih =>
    simp only [hexText_cons, List.length_cons, ih]
    omega

/-- Octets are read back from their digits. -/
theorem ofHex_hexText (bs : Octets) : ofHex? bs.hexText = some bs := by
  induction bs with
  | nil => rfl
  | cons b bs ih =>
    have hb : b.toNat < 256 := b.toNat_lt
    have hvalue : UInt8.ofNat (b.toNat / 16 * 16 + b.toNat % 16) = b := by
      rw [Nat.div_add_mod', UInt8.ofNat_toNat]
    rw [hexText_cons, ofHex?, hexDigit_hexChar (by omega), hexDigit_hexChar (by omega)]
    simp only [ih, hvalue, Option.bind_eq_bind, Option.bind_some]
    rfl

end Octets

namespace Uuid

/-- Groups of digits with hyphens between them give the digits back. -/
theorem ofGroups_groups {a b c d e : List Char} (ha : a.length = 8) (hb : b.length = 4)
    (hc : c.length = 4) (hd : d.length = 4) (he : e.length = 12) :
    ofText? (String.ofList (a ++ '-' :: b ++ '-' :: c ++ '-' :: d ++ '-' :: e)) =
      ofDigits? (a ++ b ++ c ++ d ++ e) := by
  have hlength : (a ++ '-' :: b ++ '-' :: c ++ '-' :: d ++ '-' :: e).length = 36 := by
    simp [ha, hb, hc, hd, he]
  rw [ofText?, String.toList_ofList, if_neg (by rw [hlength]; decide), if_pos hlength, ofGroups?,
    if_pos]
  · have hpast {g : List Char} {n : Nat} (h : g.length ≤ n) : g.drop n = [] :=
      List.drop_of_length_le h
    simp [List.drop_append, hpast, ha, hb, hc, hd]
  · simp [ha, hb, hc, hd, he]

/-- An identifier is read back from its text. -/
theorem ofText_text (u : Uuid) : ofText? (String.ofList u.text) = some u := by
  obtain ⟨ds, hds⟩ : ∃ ds, ds = u.octets.hexText := ⟨_, rfl⟩
  have hlength : ds.length = 32 := by
    rw [hds, Octets.length_hexText, u.length_eq]
  have hgroups : ds.take 8 ++ (ds.drop 8).take 4 ++ (ds.drop 12).take 4 ++ (ds.drop 16).take 4 ++
      ds.drop 20 = ds := by
    have hjoin (k : Nat) : (ds.drop k).take 4 ++ ds.drop (k + 4) = ds.drop k := by
      rw [← List.drop_drop]
      exact List.take_append_drop 4 _
    rw [List.append_assoc, List.append_assoc, List.append_assoc, hjoin 16, hjoin 12, hjoin 8,
      List.take_append_drop]
  rw [text, ← hds, ofGroups_groups (by simp [hlength]) (by simp [hlength]) (by simp [hlength])
    (by simp [hlength]) (by simp [hlength]), hgroups, ofDigits?, hds, Octets.ofHex_hexText,
    Option.bind_some, ofOctets?, dif_pos u.length_eq]

end Uuid

end BatchSql
