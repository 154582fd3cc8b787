import BatchSql.ConnectionConfig
import BatchSql.Proofs.Text.Quoted
import BatchSql.Proofs.Url.Redaction

namespace BatchSql

theorem Secret.shownOption_eq {s t : Option Secret} (h : s.isSome = t.isSome) :
    shownOption s = shownOption t := by
  cases s with
  | none =>
    cases t with
    | none => rfl
    | some _ => cases h
  | some _ =>
    cases t with
    | none => cases h
    | some _ => rfl

variable {σ : Type}

/-! What is the same but for secrets. -/

structure ConnectOptions.Alike (o p : ConnectOptions) : Prop where
  url : Url.Alike o.url p.url
  username : o.username = p.username
  password : o.password.isSome = p.password.isSome
  timeoutMillis : o.timeoutMillis = p.timeoutMillis
  applicationName : o.applicationName = p.applicationName
  properties : o.properties = p.properties

theorem ConnectOptions.Alike.text {o p : ConnectOptions} (h : o.Alike p) : o.text = p.text := by
  unfold ConnectOptions.text
  rw [h.url.redacted, h.username, Secret.shownOption_eq h.password, h.timeoutMillis,
    h.applicationName, h.properties]

/-- Sources over the same driver. -/
structure DriverDataSource.Alike (s t : DriverDataSource σ) : Prop where
  factory : s.factory = t.factory
  options : s.options.Alike t.options

theorem DriverDataSource.Alike.text {s t : DriverDataSource σ} (h : s.Alike t) :
    s.text = t.text := by
  unfold DriverDataSource.text
  rw [h.factory, h.options.text]

inductive ConnectionOrigin.Alike : ConnectionOrigin σ → ConnectionOrigin σ → Prop where
  | source (source : DataSource σ) : Alike (.source source) (.source source)
  | driver (name : String) {u v : String} (url : Url.Alike u v) :
      Alike (.driver name u) (.driver name v)

structure ConnectionConfig.Alike (c d : ConnectionConfig σ) : Prop where
  origin : c.origin.Alike d.origin
  username : c.username = d.username
  password : c.password.isSome = d.password.isSome

namespace ConnectionConfig.Alike

variable {c d : ConnectionConfig σ}

theorem text (h : c.Alike d) : c.text = d.text := by
  obtain ⟨origin, username, password⟩ := c
  obtain ⟨origin', username', password'⟩ := d
  obtain ⟨horigin, husername, hpassword⟩ := h
  dsimp only at horigin husername hpassword
  subst husername
  unfold ConnectionConfig.text
  dsimp only
  rw [Secret.shownOption_eq hpassword]
  cases horigin with
  | source => simp only [driverName?, url?, sourceName?]
  | driver name hurl =>
    simp only [driverName?, url?, sourceName?, Option.map_some, hurl.redacted]

theorem addTo (h : c.Alike d) (shown : DisplayData) : c.addTo shown = d.addTo shown := by
  obtain ⟨origin, username, password⟩ := c
  obtain ⟨origin', username', password'⟩ := d
  obtain ⟨horigin, husername, -⟩ := h
  dsimp only at horigin husername
  subst husername
  cases horigin with
  | source => rfl
  | driver name hurl => simp only [ConnectionConfig.addTo, hurl.redacted]

end ConnectionConfig.Alike

/-- What is shown of a configuration, of options or of a source depends neither on the text of a
password nor on the one in a URL that is read. -/
theorem secrets_are_not_shown (σ : Type) :
    (∀ c d : ConnectionConfig σ, c.Alike d →
      c.text = d.text ∧ ∀ shown, (c.addTo shown).items = (d.addTo shown).items ∧
        (c.addTo shown).text = (d.addTo shown).text) ∧
    (∀ o p : ConnectOptions, o.Alike p → o.text = p.text) ∧
    (∀ s t : DriverDataSource σ, s.Alike t → s.text = t.text) := by
  refine ⟨fun c d h => ⟨h.text, fun shown => ?_⟩, fun o p h => h.text, fun s t h => h.text⟩
  rw [h.addTo shown]
  exact ⟨rfl, rfl⟩

/-- Secrets in two places. -/
def ConnectionConfig.sample (password : List Char) (secret : String) : ConnectionConfig Unit where
  origin := .driver "org.postgresql.Driver" (Url.Login.toPrimary.text password)
  username := some "app"
  password := some ⟨secret⟩

def ConnectOptions.sample (password : List Char) (secret : String) : ConnectOptions where
  url := Url.Login.toPrimary.text password
  username := some "app"
  password := some ⟨secret⟩
  timeoutMillis := 10000
  applicationName := none
  properties := [("sslmode", "disable")]

def DriverDataSource.sample (password : List Char) (secret : String) : DriverDataSource Unit where
  factory := ⟨"postgres", fun _ => throw (.configuration "no network")⟩
  options := .sample password secret

section

variable {p q : List Char} {s t : String}
  (h : Url.Alike (Url.Login.toPrimary.text p) (Url.Login.toPrimary.text q))

include h

theorem ConnectionConfig.sample_alike : (sample p s).Alike (sample q t) :=
  ⟨.driver _ h, rfl, rfl⟩

theorem ConnectOptions.sample_alike : (sample p s).Alike (sample q t) :=
  ⟨h, rfl, rfl, rfl, rfl, rfl⟩

theorem DriverDataSource.sample_alike : (sample p s).Alike (sample q t) :=
  ⟨rfl, ConnectOptions.sample_alike h⟩

end

/-- An escaped octet in one password, and characters that are escaped when they are read in the
other. -/
theorem secrets_are_not_shown_escaped :
    (ConnectionConfig.sample "p%40ss".toList "a").text =
        (ConnectionConfig.sample "s:cr@t é".toList "b").text ∧
      (ConnectionConfig.sample "p%40ss".toList "a").display.text =
        (ConnectionConfig.sample "s:cr@t é".toList "b").display.text ∧
      (ConnectOptions.sample "p%40ss".toList "a").text =
        (ConnectOptions.sample "s:cr@t é".toList "b").text ∧
      (DriverDataSource.sample "p%40ss".toList "a").text =
        (DriverDataSource.sample "s:cr@t é".toList "b").text := by
  have hurl := Url.Login.toPrimary.alike_of_found (by decide) (by decide)
    (p := "p%40ss".toList) (q := "s:cr@t é".toList) (by decide) (by decide)
  obtain ⟨hconfigs, hoptions, hsources⟩ := secrets_are_not_shown Unit
  obtain ⟨htext, hshown⟩ := hconfigs _ _ (ConnectionConfig.sample_alike hurl)
  exact ⟨htext, (hshown .empty).2, hoptions _ _ (ConnectOptions.sample_alike hurl),
    hsources _ _ (DriverDataSource.sample_alike hurl)⟩

/-! Settings, before a configuration is made of them. -/

structure ConnectionSettings.Alike (a b : ConnectionSettings) : Prop where
  driver : a.driver = b.driver
  url : Url.Alike a.url b.url
  username : a.username = b.username
  password : a.password.isSome = b.password.isSome

namespace ConnectionSettings.Alike

variable {a b : ConnectionSettings}

theorem config (h : a.Alike b) :
    (ConnectionConfig.ofSettings a : ConnectionConfig σ).Alike (.ofSettings b) where
  origin := by
    rw [ConnectionConfig.ofSettings, ConnectionConfig.ofSettings, h.driver]
    exact .driver b.driver h.url
  username := h.username
  password := h.password

/-- The URL stands in the text as it is. -/
theorem text_eq_iff (h : a.Alike b) : a.text = b.text ↔ a.url = b.url := by
  unfold ConnectionSettings.text
  rw [h.driver, h.username, Secret.shownOption_eq h.password, String.append_left_inj,
    String.append_left_inj, String.append_left_inj, String.append_left_inj,
    String.append_left_inj, String.append_right_inj, Text.quoted_inj]

end ConnectionSettings.Alike

/-- Of two settings that differ in secrets alone the texts show a password in the URL, and nothing
else; those of the configurations made of them show none. -/
theorem settings_show_urls_only (σ : Type) {a b : ConnectionSettings} (h : a.Alike b) :
    (a.text = b.text ↔ a.url = b.url) ∧
      (ConnectionConfig.ofSettings a : ConnectionConfig σ).text =
        (ConnectionConfig.ofSettings b : ConnectionConfig σ).text :=
  ⟨h.text_eq_iff, h.config.text⟩

def ConnectionSettings.sample (password : List Char) (secret : String) : ConnectionSettings where
  driver := "org.postgresql.Driver"
  url := Url.Login.toPrimary.text password
  username := some "app"
  password := some ⟨secret⟩

theorem ConnectionSettings.sample_alike_of_url {p q : List Char} {s t : String}
    (h : Url.Alike (Url.Login.toPrimary.text p) (Url.Login.toPrimary.text q)) :
    (sample p s).Alike (sample q t) :=
  ⟨rfl, h, rfl, rfl⟩

theorem ConnectionSettings.sample_alike (s t : String) :
    (sample "secret1".toList s).Alike (sample "secret2".toList t) :=
  sample_alike_of_url
    (Url.Login.toPrimary.alike_of_found (by decide) (by decide) (by decide) (by decide))

theorem settings_show_urls_only_of_two_secrets :
    (ConnectionSettings.sample "secret1".toList "a").Alike (.sample "secret2".toList "b") ∧
      (ConnectionConfig.ofSettings (.sample "secret1".toList "a") : ConnectionConfig Unit).text =
        (ConnectionConfig.ofSettings (.sample "secret2".toList "b") : ConnectionConfig Unit).text := by
  have halike := ConnectionSettings.sample_alike "a" "b"
  exact ⟨halike, (settings_show_urls_only Unit halike).2⟩

/-- The password in the URL is read as one, and shows. -/
theorem settings_show_passwords_in_urls :
    (ConnectionSettings.sample "secret1".toList "a").Alike (.sample "secret2".toList "a") ∧
      (ConnectionSettings.sample "secret1".toList "a").text ≠
        (ConnectionSettings.sample "secret2".toList "a").text := by
  have halike := ConnectionSettings.sample_alike "a" "a"
  have hurls : Url.Login.toPrimary.text "secret1".toList ≠
      Url.Login.toPrimary.text "secret2".toList := mt Url.Login.text_inj.mp (by decide)
  exact ⟨halike, mt halike.text_eq_iff.mp hurls⟩

end BatchSql
