import BatchSql.Url.Parser

namespace BatchSql.Url

/-! Scanning stops at a character that does not fit, whatever stands behind it. -/

theorem takeWhile_stop {p : Char → Bool} {c : Char} (hc : p c = false) (front back : List Char) :
    (front ++ c :: back).takeWhile p = front.takeWhile p := by
  rw [List.takeWhile_append, List.takeWhile_cons_of_neg (by simp [hc])]
  split
  · rename_i hall
    rw [List.append_nil, (List.takeWhile_prefix p).eq_of_length hall]
  · rfl

theorem dropWhile_stop {p : Char → Bool} {c : Char} (hc : p c = false) (front back : List Char) :
    (front ++ c :: back).dropWhile p = front.dropWhile p ++ c :: back := by
  rw [List.dropWhile_append, List.dropWhile_cons_of_neg (by simp [hc])]
  split
  · rename_i hempty
    rw [List.isEmpty_iff.mp hempty, List.nil_append]
  · rfl

/-! What is left of a text when it is cleaned. -/

def isOuter (c : Char) : Bool :=
  c.toNat ≤ 0x20

def isKept (c : Char) : Bool :=
  c != '\t' && c != '\n' && c != '\r'

/-- The end of a text, cleaned. -/
def tidied (cs : List Char) : List Char :=
  (cs.reverse.dropWhile isOuter).reverse.filter isKept

theorem trimmed_append {c : Char} (hc : isOuter c = false) (front back : List Char) :
    ((front ++ c :: back).reverse.dropWhile isOuter).reverse =
      front ++ c :: (back.reverse.dropWhile isOuter).reverse := by
  rw [List.reverse_append, List.reverse_cons, List.append_assoc, List.singleton_append,
    dropWhile_stop hc]
  simp

/-- Of a text that begins with a character that shows, nothing is cut off before an `@`. -/
theorem cleaned_append {c : Char} (hc : isOuter c = false) (front back : List Char) :
    cleaned (String.ofList (c :: front ++ '@' :: back)) =
      (c :: front).filter isKept ++ '@' :: tidied back := by
  change List.filter isKept (((String.ofList _).toList.dropWhile isOuter).reverse.dropWhile
    isOuter).reverse = _
  rw [String.toList_ofList, List.cons_append, List.dropWhile_cons_of_neg (by simp [hc]),
    ← List.cons_append, trimmed_append (by decide), List.filter_append]
  rfl

/-! The scheme. -/

def isSchemeChar (c : Char) : Bool :=
  isAlpha c || Text.isDigit c || c == '+' || c == '-' || c == '.'

/-- A letter, and then letters, digits and marks. -/
def isScheme : List Char → Bool
  | [] => false
  | c :: cs => isAlpha c && (c :: cs).all isSchemeChar

theorem isOuter_of_isAlpha {c : Char} (h : isAlpha c = true) : isOuter c = false := by
  simp only [isAlpha, Bool.or_eq_true, Bool.and_eq_true, decide_eq_true_eq, Char.le_def,
    UInt32.le_iff_toNat_le] at h
  simp only [isOuter, Char.toNat, decide_eq_false_iff_not]
  rcases h with ⟨h, -⟩ | ⟨h, -⟩
  · have : 'a'.val.toNat = 97 := rfl
    omega
  · have : 'A'.val.toNat = 65 := rfl
    omega

theorem ne_of_isSchemeChar {c d : Char} (hc : isSchemeChar c = true) (hd : isSchemeChar d = false) :
    c ≠ d := by
  rintro rfl
  rw [hc] at hd
  cases hd

theorem isKept_of_isSchemeChar {c : Char} (h : isSchemeChar c = true) : isKept c = true := by
  simp [isKept, ne_of_isSchemeChar (d := '\t') h (by decide),
    ne_of_isSchemeChar (d := '\n') h (by decide), ne_of_isSchemeChar (d := '\r') h (by decide)]

theorem schemeFrom_append {cs : List Char} (h : cs.all isSchemeChar = true) (rest : List Char) :
    schemeFrom (cs ++ ':' :: rest) = some (cs.map Char.toLower, rest) := by
  induction cs with
  | nil => rfl
  | cons c cs ih =>
    rw [List.all_cons, Bool.and_eq_true] at h
    have hcolon : c ≠ ':' := ne_of_isSchemeChar h.1 (by decide)
    rw [List.cons_append, schemeFrom, if_neg hcolon, ih h.2]
    exact if_pos h.1

theorem scheme_append {cs : List Char} (h : isScheme cs = true) (rest : List Char) :
    scheme? (cs ++ ':' :: rest) = some (cs.map Char.toLower, rest) := by
  cases cs with
  | nil => cases h
  | cons c cs =>
    rw [isScheme, Bool.and_eq_true] at h
    rw [List.cons_append, scheme?, if_pos h.1, ← List.cons_append, schemeFrom_append h.2]

/-! Credentials before the last `@`. -/

def afterLastAt (cs : List Char) : List Char :=
  (cs.reverse.takeWhile (· != '@')).reverse

/-- What stands before the last `@`, with the one in front of it all. -/
def upToLastAt (cs : List Char) : List Char :=
  ('@' :: cs).take (cs.length - (afterLastAt cs).length)

theorem length_afterLastAt_le (cs : List Char) : (afterLastAt cs).length ≤ cs.length := by
  calc (afterLastAt cs).length
    _ = (cs.reverse.takeWhile (· != '@')).length := List.length_reverse
    _ ≤ cs.reverse.length := (List.takeWhile_sublist _).length_le
    _ = cs.length := List.length_reverse

theorem afterLastAt_append (front back : List Char) :
    afterLastAt (front ++ '@' :: back) = afterLastAt back := by
  rw [afterLastAt, List.reverse_append, List.reverse_cons, List.append_assoc,
    List.singleton_append, takeWhile_stop (by simp), afterLastAt]

theorem splitLastAt_append (front back : List Char) :
    splitLastAt (front ++ '@' :: back) = some (front ++ upToLastAt back, afterLastAt back) := by
  have hafter : ((front ++ '@' :: back).reverse.takeWhile (· != '@')).reverse = afterLastAt back :=
    afterLastAt_append front back
  have hle := length_afterLastAt_le back
  have hlength : (front ++ '@' :: back).length = front.length + (back.length + 1) := by simp
  have hplace : front.length + (back.length + 1) - (afterLastAt back).length - 1 =
      front.length + (back.length - (afterLastAt back).length) := by omega
  rw [splitLastAt, hafter, if_pos (by omega), hlength, hplace, List.take_length_add_append]
  rfl

theorem dropWhile_colon_ne_nil (user : List Char) {secret : List Char} (h : secret ≠ []) :
    ((user ++ ':' :: secret).dropWhile (· != ':')).drop 1 ≠ [] := by
  rw [dropWhile_stop (by simp)]
  cases user.dropWhile (· != ':') with
  | nil => exact h
  | cons c cs => simp

/-- A user in front of a colon, and any password behind it but an empty one. -/
theorem credentials_append (user : List Char) {secret : List Char} (h : secret ≠ []) :
    ∃ written, credentials (user ++ ':' :: secret) =
      (escape credentialSet (user.takeWhile (· != ':')), some written) := by
  have hsecret : (((user ++ ':' :: secret).dropWhile (· != ':')).drop 1).isEmpty = false :=
    List.isEmpty_eq_false_iff.mpr (dropWhile_colon_ne_nil user h)
  refine ⟨escape credentialSet (((user ++ ':' :: secret).dropWhile (· != ':')).drop 1), ?_⟩
  rw [credentials, takeWhile_stop (by simp)]
  simp only [hsecret, Bool.false_eq_true, if_false]

/-! The authority. -/

/-- What stands for a user or a password does not end the authority. -/
def Inside (kind : SchemeKind) (cs : List Char) : Prop :=
  ∀ c ∈ cs, endsAuthority kind c = false

instance (kind : SchemeKind) (cs : List Char) : Decidable (Inside kind cs) :=
  List.decidableBAll _ cs

theorem Inside.of_all {cs : List Char} (h : cs.all isSchemeChar = true) (kind : SchemeKind) :
    Inside kind cs := by
  intro c hc
  have hchar := List.all_eq_true.mp h c hc
  simp [endsAuthority, ne_of_isSchemeChar (d := '/') hchar (by decide),
    ne_of_isSchemeChar (d := '?') hchar (by decide),
    ne_of_isSchemeChar (d := '#') hchar (by decide),
    ne_of_isSchemeChar (d := '\\') hchar (by decide)]

/-- The host and the port behind credentials, if there is a host, and what they leave over. -/
def place? (kind : SchemeKind) (scheme cs : List Char) :
    Option (List Char × Option Nat × List Char) :=
  (hostAndPort? kind scheme (afterLastAt (cs.takeWhile (!endsAuthority kind ·)))).filter
    fun (host, _, _) => !host.isEmpty

/-- Behind credentials only the password is not known beforehand. -/
theorem authority_append {kind : SchemeKind} {user secret : List Char}
    (huser : Inside kind user) (hsecret : Inside kind secret) (hne : secret ≠ [])
    (scheme rest : List Char) :
    ∃ written, authority? kind scheme (user ++ ':' :: secret ++ '@' :: rest) =
      (place? kind scheme rest).map fun (host, port, left) =>
        (⟨escape credentialSet (user.takeWhile (· != ':')), some written, host, port⟩,
          left ++ rest.dropWhile (!endsAuthority kind ·)) := by
  have hfront : ∀ c ∈ user ++ ':' :: secret ++ ['@'], (!endsAuthority kind c) = true := by
    intro c hc
    rw [Bool.not_eq_true']
    simp only [List.mem_append, List.mem_cons, List.not_mem_nil, or_false] at hc
    rcases hc with (hc | rfl | hc) | rfl
    · exact huser c hc
    · simp [endsAuthority]
    · exact hsecret c hc
    · simp [endsAuthority]
  have hwhole : (user ++ ':' :: secret ++ '@' :: rest).takeWhile (!endsAuthority kind ·) =
      user ++ ':' :: secret ++ '@' :: rest.takeWhile (!endsAuthority kind ·) := by
    rw [List.append_cons, List.takeWhile_append_of_pos hfront, ← List.append_cons]
  have hrest : (user ++ ':' :: secret ++ '@' :: rest).dropWhile (!endsAuthority kind ·) =
      rest.dropWhile (!endsAuthority kind ·) := by
    rw [List.append_cons, List.dropWhile_append_of_pos hfront]
  obtain ⟨written, hcredentials⟩ := credentials_append user
    (List.append_ne_nil_of_left_ne_nil hne (upToLastAt (rest.takeWhile (!endsAuthority kind ·))))
  refine ⟨written, ?_⟩
  rw [authority?, hwhole, hrest, splitLastAt_append]
  dsimp only
  rw [List.append_assoc, List.cons_append, if_neg (by simp), hcredentials, place?]
  cases hostAndPort? kind scheme (afterLastAt (rest.takeWhile (!endsAuthority kind ·))) with
  | none => rfl
  | some found =>
    obtain ⟨host, port, left⟩ := found
    cases host with
    | nil => exact if_pos ⟨rfl, .inr rfl⟩
    | cons c cs => rfl

/-! The URL. -/

/-- A URL that gives a user, as it is written but for the password. -/
structure Login where
  scheme : List Char
  user : List Char
  rest : List Char
  scheme_valid : isScheme scheme = true
  user_inside : Inside (schemeKind (scheme.map Char.toLower)) user

namespace Login

def text (l : Login) (password : List Char) : String :=
  String.ofList (l.scheme ++ ':' :: '/' :: '/' :: l.user ++ ':' :: password ++ '@' :: l.rest)

/-- The scheme as it is read. -/
def name (l : Login) : List Char :=
  l.scheme.map Char.toLower

def kind (l : Login) : SchemeKind :=
  schemeKind l.name

/-- Whether something may be the password. -/
def Admits (l : Login) (password : List Char) : Prop :=
  Inside l.kind password ∧ ∃ c ∈ password, isKept c = true

instance (l : Login) (password : List Char) : Decidable (l.Admits password) :=
  have : Decidable (∃ c ∈ password, isKept c = true) := List.decidableBEx _ password
  instDecidableAnd

/-- The host and the port, if there is a host, and what they leave over. -/
def found? (l : Login) : Option (List Char × Option Nat × List Char) :=
  place? l.kind l.name (tidied l.rest)

/-- The URL that is read, but for the password. -/
def url? (l : Login) : Option Url :=
  l.found?.map fun (host, port, left) =>
    let user := escape credentialSet ((l.user.filter isKept).takeWhile (· != ':'))
    let r := left ++ (tidied l.rest).dropWhile (!endsAuthority l.kind ·)
    finish l.kind l.name (some ⟨user, none, host, port⟩)
      (pathAfterAuthority l.kind (r.takeWhile (!isPathEnd ·))) (r.dropWhile (!isPathEnd ·))

/-- What stands behind the slashes, cleaned. -/
def body (l : Login) (password : List Char) : List Char :=
  l.user.filter isKept ++ ':' :: password.filter isKept ++ '@' :: tidied l.rest

variable {l : Login} {password : List Char}

theorem cleaned_text (l : Login) (password : List Char) :
    cleaned (l.text password) = l.scheme ++ ':' :: '/' :: '/' :: l.body password := by
  obtain ⟨scheme, user, rest, hscheme, huser⟩ := l
  cases scheme with
  | nil => cases hscheme
  | cons c cs =>
    rw [isScheme, Bool.and_eq_true] at hscheme
    have hkept : (c :: cs).filter isKept = c :: cs :=
      List.filter_eq_self.mpr fun d hd =>
        isKept_of_isSchemeChar (List.all_eq_true.mp hscheme.2 d hd)
    have htext := cleaned_append (isOuter_of_isAlpha hscheme.1)
      (cs ++ ':' :: '/' :: '/' :: user ++ ':' :: password) rest
    rw [← List.cons_append, ← List.cons_append, List.filter_append, List.filter_append, hkept]
      at htext
    simpa [text, body, isKept] using htext

/-- A user does not begin with a slash, and a colon follows if there is none. -/
theorem dropWhile_body (hkind : l.kind = .special) (password : List Char) :
    (l.body password).dropWhile isSlash = l.body password := by
  rw [body]
  cases huser : l.user.filter isKept with
  | nil => exact List.dropWhile_cons_of_neg (by decide)
  | cons c cs =>
    have hmem : c ∈ l.user.filter isKept := by
      rw [huser]
      exact List.mem_cons_self
    have hinside := l.user_inside c (List.mem_filter.mp hmem).1
    rw [show schemeKind (l.scheme.map Char.toLower) = .special from hkind] at hinside
    refine List.dropWhile_cons_of_neg ?_
    rw [Bool.not_eq_true, isSlash]
    simp only [endsAuthority, SchemeKind.isSpecial, Bool.true_and, Bool.or_eq_false_iff] at hinside
    rw [hinside.1.1.1, hinside.2]
    rfl

/-- A scheme but that of files is followed by the authority. -/
theorem parse_eq (hkind : l.kind ≠ .file) :
    parse? (l.text password) = afterSlashes? l.kind l.name (l.body password) := by
  rw [parse?, cleaned_text, scheme_append l.scheme_valid, Option.bind_eq_bind, Option.bind_some]
  dsimp only
  cases hk : l.kind with
  | file => exact absurd hk hkind
  | special =>
    rw [show schemeKind (l.scheme.map Char.toLower) = .special from hk]
    exact congrArg (afterSlashes? .special l.name) (dropWhile_body hk password)
  | plain =>
    rw [show schemeKind (l.scheme.map Char.toLower) = .plain from hk]
    rfl

theorem Admits.of_all (hne : password ≠ []) (h : password.all isSchemeChar = true) (l : Login) :
    l.Admits password := by
  obtain ⟨c, cs, rfl⟩ := List.exists_cons_of_ne_nil hne
  exact ⟨.of_all h l.kind, c, List.mem_cons_self,
    isKept_of_isSchemeChar (List.all_eq_true.mp h c List.mem_cons_self)⟩

theorem Admits.kept (h : l.Admits password) :
    Inside l.kind (password.filter isKept) ∧ password.filter isKept ≠ [] := by
  obtain ⟨hinside, c, hc, hkept⟩ := h
  exact ⟨fun d hd => hinside d ((List.mem_filter.mp hd).1),
    List.ne_nil_of_mem (List.mem_filter.mpr ⟨hc, hkept⟩)⟩

theorem parse_text (hkind : l.kind ≠ .file) (h : l.Admits password) :
    ∃ written, parse? (l.text password) = l.url?.map (·.holding written) := by
  have huser : Inside l.kind (l.user.filter isKept) := fun c hc =>
    l.user_inside c ((List.mem_filter.mp hc).1)
  obtain ⟨written, hauthority⟩ :=
    authority_append huser h.kept.1 h.kept.2 l.name (tidied l.rest)
  refine ⟨written, ?_⟩
  rw [parse_eq hkind, afterSlashes?, body, hauthority, url?, found?]
  cases place? l.kind l.name (tidied l.rest) with
  | none => rfl
  | some found => rfl

end Login

end BatchSql.Url
