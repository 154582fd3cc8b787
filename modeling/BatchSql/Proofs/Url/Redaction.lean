import BatchSql.Proofs.Url.Credentials
import BatchSql.Url.Redaction

namespace BatchSql.Url

/-! A URL that is read with a password is one that takes it. -/

theorem host_of_authority {kind : SchemeKind} {scheme cs left : List Char} {a : Authority}
    (h : authority? kind scheme cs = some (a, left)) (hp : a.password.isSome = true) :
    a.host.isEmpty = false := by
  rw [authority?] at h
  split at h
  · obtain ⟨⟨host, port, rest⟩, -, ha⟩ := Option.bind_eq_some_iff.mp h
    obtain ⟨rfl, -⟩ := Prod.mk.inj (Option.some.inj ha)
    cases hp
  · rename_i before after hsplit
    split at h
    · cases h
    · generalize credentials before = written at h
      obtain ⟨user, password⟩ := written
      obtain ⟨⟨host, port, rest⟩, -, ha⟩ := Option.bind_eq_some_iff.mp h
      dsimp only at ha
      split at ha
      · cases ha
      · rename_i hhost
        obtain ⟨rfl, -⟩ := Prod.mk.inj (Option.some.inj ha)
        exact (Bool.not_eq_true _).mp fun hempty => hhost ⟨hempty, .inr hp⟩

theorem takesCredentials_of_afterSlashes {kind : SchemeKind} {scheme cs : List Char} {u : Url}
    (hscheme : schemeKind scheme ≠ .file) (h : afterSlashes? kind scheme cs = some u)
    (hp : u.password?.isSome = true) : u.takesCredentials = true := by
  obtain ⟨⟨a, left⟩, ha, hu⟩ := Option.bind_eq_some_iff.mp h
  obtain rfl := Option.some.inj hu
  have hhost := host_of_authority ha hp
  simp [takesCredentials, finish, hscheme, hhost]

theorem password_of_fileUrl {scheme cs : List Char} {u : Url} (h : fileUrl? scheme cs = some u) :
    u.password? = none := by
  rw [fileUrl?.eq_def] at h
  split at h
  · dsimp only at h
    split at h
    · split at h
      · obtain rfl := Option.some.inj h
        rfl
      · obtain ⟨found, -, hu⟩ := Option.bind_eq_some_iff.mp h
        obtain rfl := Option.some.inj hu
        rfl
    · obtain rfl := Option.some.inj h
      rfl
  · obtain rfl := Option.some.inj h
    rfl

theorem password_of_withoutAuthority (scheme cs : List Char) :
    (withoutAuthority scheme cs).password? = none := by
  rw [withoutAuthority]
  split
  · rfl
  · rfl

theorem takesCredentials_of_parse {s : String} {u : Url} (h : parse? s = some u)
    (hp : u.password?.isSome = true) : u.takesCredentials = true := by
  obtain ⟨⟨scheme, r⟩, -, hu⟩ := Option.bind_eq_some_iff.mp h
  dsimp only at hu
  split at hu
  · rw [password_of_fileUrl hu] at hp
    cases hp
  · rename_i hkind
    exact takesCredentials_of_afterSlashes (by simp [hkind]) hu hp
  · rename_i hkind
    split at hu
    · exact takesCredentials_of_afterSlashes (by simp [hkind]) hu hp
    · obtain rfl := Option.some.inj hu
      rw [password_of_withoutAuthority] at hp
      cases hp

theorem escape_mask : escape credentialSet mask = mask := by
  decide

theorem holding_holding (u : Url) (first second : List Char) :
    (u.holding first).holding second = u.holding second := by
  obtain ⟨scheme, authority, path, query, fragment⟩ := u
  cases authority with
  | none => rfl
  | some a => rfl

/-- No password that is read escapes the mask. -/
theorem masked_of_parse {s : String} {u : Url} (h : parse? s = some u)
    (hp : u.password?.isSome = true) : u.masked = u.holding mask := by
  rw [masked, if_pos hp, withPassword?, if_pos (takesCredentials_of_parse h hp), escape_mask]
  rfl

theorem redacted_of_parse {s : String} {u : Url} (h : parse? s = some u)
    (hp : u.password?.isSome = true) : redacted s = String.ofList (u.holding mask).text := by
  rw [redacted, h, ← masked_of_parse h hp]

/-- Two texts that are the same, or that are read as URLs with passwords and differ in nothing
else. -/
inductive Alike : String → String → Prop where
  | same (s : String) : Alike s s
  | apart {s t : String} {u v : Url} (first : parse? s = some u) (second : parse? t = some v)
      (firstPassword : u.password?.isSome = true) (secondPassword : v.password?.isSome = true)
      (others : u.holding [] = v.holding []) : Alike s t

theorem Alike.redacted {s t : String} (h : Alike s t) : redacted s = redacted t := by
  cases h with
  | same => rfl
  | apart hu hv hp hq hothers =>
    rw [redacted_of_parse hu hp, redacted_of_parse hv hq, ← holding_holding _ [], hothers,
      holding_holding]

/-! Words in a text. -/

theorem isPrefixOf_append {word : List Char} {c : Char} (hc : c ∉ word) (front back : List Char) :
    word.isPrefixOf (front ++ c :: back) = word.isPrefixOf front := by
  induction word generalizing front with
  | nil => rfl
  | cons w ws ih =>
    rw [List.mem_cons, not_or] at hc
    cases front with
    | nil =>
      change (w == c && ws.isPrefixOf back) = false
      rw [beq_false_of_ne (Ne.symm hc.1), Bool.false_and]
    | cons d ds => rw [List.cons_append, List.isPrefixOf, List.isPrefixOf, ih hc.2]

/-- A word does not reach across a character that it does not hold. -/
theorem occursIn_append {word : List Char} {c : Char} (hne : word ≠ []) (hc : c ∉ word)
    (front back : List Char) :
    occursIn word (front ++ c :: back) = (occursIn word front || occursIn word back) := by
  induction front with
  | nil =>
    have hnil : word.isPrefixOf (c :: back) = word.isPrefixOf [] := isPrefixOf_append hc [] back
    obtain ⟨w, ws, rfl⟩ := List.exists_cons_of_ne_nil hne
    change ((w :: ws).isPrefixOf (c :: back) || occursIn (w :: ws) back) = _
    rw [hnil]
    rfl
  | cons d ds ih =>
    have hprefix := isPrefixOf_append hc (d :: ds) back
    rw [List.cons_append] at hprefix ⊢
    rw [occursIn, occursIn, hprefix, ih, Bool.or_assoc]

/-- Whether a text speaks of a password. -/
def mentions (cs : List Char) : Bool :=
  occursIn "password".toList cs

theorem mentions_append {c : Char} (hc : c ∉ "password".toList) (front back : List Char) :
    mentions (front ++ c :: back) = (mentions front || mentions back) :=
  occursIn_append (by decide) hc front back

namespace Login

variable {l : Login} {password : List Char}

/-- Whether something but the password speaks of one. -/
def speaks (l : Login) : Bool :=
  mentions l.scheme || mentions l.user || mentions l.rest

theorem mentions_text (l : Login) (password : List Char) :
    mentions (l.text password).toList = (l.speaks || mentions password) := by
  have hslash (cs : List Char) : mentions ('/' :: cs) = mentions cs :=
    mentions_append (by decide) [] cs
  have htext : (l.text password).toList =
      l.scheme ++ ':' :: ('/' :: '/' :: (l.user ++ ':' :: (password ++ '@' :: l.rest))) := by
    rw [text, String.toList_ofList]
    simp
  rw [htext, mentions_append (by decide), hslash, hslash, mentions_append (by decide),
    mentions_append (by decide), speaks]
  ac_rfl

theorem text_inj {p q : List Char} : l.text p = l.text q ↔ p = q := by
  constructor
  · intro h
    have hlists := congrArg String.toList h
    rw [text, text, String.toList_ofList, String.toList_ofList] at hlists
    have hbehind := List.append_cancel_right hlists
    exact (List.cons.inj (List.append_cancel_left hbehind)).2
  · rintro rfl
    rfl

theorem text_ne_mask (l : Login) (password : List Char) :
    l.text password ≠ String.ofList mask := by
  obtain ⟨scheme, user, rest, hscheme, huser⟩ := l
  intro h
  have hlists := congrArg String.toList h
  rw [text, String.toList_ofList, String.toList_ofList] at hlists
  cases scheme with
  | nil => cases hscheme
  | cons c cs =>
    rw [isScheme, Bool.and_eq_true] at hscheme
    obtain rfl : c = '*' := (List.cons.inj hlists).1
    exact absurd hscheme.1 (by decide)

theorem isSome_password_holding {u : Url} (h : l.url? = some u) (written : List Char) :
    (u.holding written).password?.isSome = true := by
  obtain ⟨found, -, rfl⟩ := Option.map_eq_some_iff.mp h
  rfl

/-- Where a host is found the password is read as one. -/
theorem alike_of_found (hkind : l.kind ≠ .file) (h : l.found?.isSome = true) {p q : List Char}
    (hp : l.Admits p) (hq : l.Admits q) : Alike (l.text p) (l.text q) := by
  obtain ⟨u, hurl⟩ : ∃ u, l.url? = some u := by
    rw [← Option.isSome_iff_exists, url?, Option.isSome_map]
    exact h
  obtain ⟨first, hfirst⟩ := parse_text hkind hp
  obtain ⟨second, hsecond⟩ := parse_text hkind hq
  rw [hurl, Option.map_some] at hfirst hsecond
  refine .apart hfirst hsecond (isSome_password_holding hurl first)
    (isSome_password_holding hurl second) ?_
  rw [holding_holding, holding_holding]

/-- Where no host is found the text shows as it stands, unless it speaks of a password. -/
theorem redacted_of_unfound (hkind : l.kind ≠ .file) (h : l.found? = none)
    (hpassword : l.Admits password) :
    redacted (l.text password) =
      if (l.speaks || mentions password) = true then String.ofList mask else l.text password := by
  obtain ⟨written, hparse⟩ := parse_text hkind hpassword
  rw [url?, h, Option.map_none, Option.map_none] at hparse
  rw [redacted, hparse, ← mentions_text]
  rfl

end Login

/-- Two passwords in a URL with credentials show alike exactly if a host with a fit port is found
behind them, or the rest of the text speaks of a password, or both passwords do. Of other texts,
such as those with several hosts that have ports, or with none, the password is not hidden. -/
theorem passwords_show_alike_iff (l : Login) (hkind : l.kind ≠ .file) {p q : List Char}
    (hp : l.Admits p) (hq : l.Admits q) :
    redacted (l.text p) = redacted (l.text q) ↔
      p = q ∨ l.found?.isSome = true ∨ l.speaks = true ∨
        (mentions p = true ∧ mentions q = true) := by
  cases hfound : l.found? with
  | some found =>
    have halike := Login.alike_of_found hkind (by rw [hfound]; rfl) hp hq
    simp [halike.redacted]
  | none =>
    rw [Login.redacted_of_unfound hkind hfound hp, Login.redacted_of_unfound hkind hfound hq]
    have hne : mentions p ≠ mentions q → p ≠ q := mt (congrArg mentions)
    cases l.speaks with
    | true => simp
    | false =>
      cases hmp : mentions p with
      | true =>
        cases hmq : mentions q with
        | true => simp
        | false => simp [hne (by simp [hmp, hmq]), (l.text_ne_mask q).symm]
      | false =>
        cases hmq : mentions q with
        | true => simp [hne (by simp [hmp, hmq]), l.text_ne_mask p]
        | false => simp [Login.text_inj]

/-- One host. -/
def Login.toPrimary : Login where
  scheme := "postgres".toList
  user := "app".toList
  rest := "db:5432/app".toList
  scheme_valid := by decide
  user_inside := by decide

theorem passwords_show_alike_iff_one_host :
    Login.toPrimary.kind ≠ .file ∧ Login.toPrimary.Admits "secret1".toList ∧
      Login.toPrimary.Admits "secret2".toList ∧
      redacted (Login.toPrimary.text "secret1".toList) =
        redacted (Login.toPrimary.text "secret2".toList) := by
  have hkind : Login.toPrimary.kind ≠ .file := by decide
  have hfirst : Login.toPrimary.Admits "secret1".toList := .of_all (by decide) (by decide) _
  have hsecond : Login.toPrimary.Admits "secret2".toList := .of_all (by decide) (by decide) _
  have hfound : Login.toPrimary.found?.isSome = true := by decide
  exact ⟨hkind, hfirst, hsecond,
    (passwords_show_alike_iff Login.toPrimary hkind hfirst hsecond).mpr (.inr (.inl hfound))⟩

/-- Two hosts, each with its port. -/
def Login.toReplicas : Login where
  scheme := "postgres".toList
  user := "app".toList
  rest := "h1:5432,h2:5432/db".toList
  scheme_valid := by decide
  user_inside := by decide

theorem passwords_for_two_hosts_show_apart :
    redacted "postgres://app:secret1@h1:5432,h2:5432/db" ≠
      redacted "postgres://app:secret2@h1:5432,h2:5432/db" := by
  have hkind : Login.toReplicas.kind ≠ .file := by decide
  have hfound : Login.toReplicas.found? = none := by decide
  have hspeaks : Login.toReplicas.speaks = false := by decide
  have shows (password : List Char) (hpassword : Login.toReplicas.Admits password)
      (hmentions : mentions password = false) :
      redacted (Login.toReplicas.text password) = Login.toReplicas.text password := by
    rw [Login.redacted_of_unfound hkind hfound hpassword, hspeaks, hmentions]
    rfl
  have hfirst := shows "secret1".toList (.of_all (by decide) (by decide) _) (by decide)
  have hsecond := shows "secret2".toList (.of_all (by decide) (by decide) _) (by decide)
  change redacted (Login.toReplicas.text "secret1".toList) ≠
    redacted (Login.toReplicas.text "secret2".toList)
  rw [hfirst, hsecond, Ne, Login.text_inj]
  decide

end BatchSql.Url
