import KasaTransport.Primitives

/-!
The cookie jar of an `httpx` client, as far as `KlapTransport` uses it. `http.cookiejar` files
a cookie under its domain, path and name: a `Set-Cookie` replaces the cookie filed under the same
key and sits beside those of other domains or paths. `Cookies.get(name)` walks the whole jar and
raises `CookieConflict` at a second cookie of that name. A reply carries its cookies as the jar
files them, domain and path already resolved.
-/

namespace KasaTransport

/-- A cookie as `http.cookiejar` files it. -/
structure Cookie where
  domain : String
  path : String
  name : String
  value : String
  deriving DecidableEq

/-- What `http.cookiejar` files a cookie under. -/
def Cookie.key (c : Cookie) : String × String × String := (c.domain, c.path, c.name)

abbrev CookieJar := List Cookie

namespace CookieJar

/-- `CookieJar.set_cookie`: the cookie replaces the one filed under its key. -/
def setCookie (jar : CookieJar) (c : Cookie) : CookieJar :=
  jar.filter (fun d => d.key ≠ c.key) ++ [c]

/-- `Cookies.extract_cookies`: a response's cookies, filed in header order. -/
def extractCookies (jar : CookieJar) (setCookies : List Cookie) : CookieJar :=
  setCookies.foldl setCookie jar

def getStep (name : String) (value : Option String) (cookie : Cookie) :
    Except PyException (Option String) :=
  if cookie.name = name then
    match value with
    | some _ => .error .cookieConflict
    | none => .ok (some cookie.value)
  else .ok value

/-- `Cookies.get(name)` with no domain or path given. -/
def get (jar : CookieJar) (name : String) : Except PyException (Option String) :=
  jar.foldlM (getStep name) none

/-- `http.cookiejar` holds at most one cookie per key. -/
def KeysNodup (jar : CookieJar) : Prop := (jar.map Cookie.key).Nodup

/-- A response sets the name under two keys: two domains or two paths. -/
def SetsTwice (setCookies : List Cookie) (name : String) : Prop :=
  ∃ c ∈ setCookies, ∃ d ∈ setCookies, c.name = name ∧ d.name = name ∧ c.key ≠ d.key

instance (setCookies : List Cookie) (name : String) : Decidable (SetsTwice setCookies name) :=
  inferInstanceAs (Decidable (∃ c ∈ setCookies, _))

variable {jar : CookieJar} {name : String}

@[simp] theorem extractCookies_nil (jar : CookieJar) : jar.extractCookies [] = jar := rfl

theorem mem_setCookie {c d : Cookie} : d ∈ jar.setCookie c ↔ d ∈ jar ∧ d.key ≠ c.key ∨ d = c := by
  simp [setCookie]

/-- The last `Set-Cookie` under a key wins. -/
theorem setCookie_setCookie_of_key_eq {c c' : Cookie} (h : c.key = c'.key) :
    (jar.setCookie c).setCookie c' = jar.setCookie c' := by
  simp only [setCookie, List.filter_append, List.filter_filter, List.filter_singleton, h]
  simp [Bool.and_comm]

theorem KeysNodup.setCookie (h : jar.KeysNodup) (c : Cookie) : (jar.setCookie c).KeysNodup := by
  have hsub : ((jar.filter fun d => d.key ≠ c.key).map Cookie.key).Nodup :=
    h.sublist ((List.filter_sublist _).map _)
  simp only [KeysNodup, CookieJar.setCookie, List.map_append, List.map_singleton,
    List.nodup_append, List.nodup_singleton, List.disjoint_singleton]
  exact ⟨hsub, trivial, by simp⟩

theorem KeysNodup.extractCookies (h : jar.KeysNodup) (setCookies : List Cookie) :
    (jar.extractCookies setCookies).KeysNodup := by
  induction setCookies generalizing jar with
  | nil => exact h
  | cons c rest ih => exact ih (h.setCookie c)

theorem mem_extractCookies {setCookies : List Cookie} {c : Cookie}
    (hc : c ∈ jar.extractCookies setCookies) : c ∈ jar ∨ c ∈ setCookies := by
  induction setCookies generalizing jar with
  | nil => exact .inl hc
  | cons d rest ih =>
      rcases ih hc with hc | hc
      · rcases mem_setCookie.1 hc with ⟨hc, -⟩ | rfl
        · exact .inl hc
        · exact .inr (.head _)
      · exact .inr (.tail _ hc)

theorem exists_key_mem_extractCookies_of_mem {c : Cookie} (hc : c ∈ jar)
    (setCookies : List Cookie) : ∃ c' ∈ jar.extractCookies setCookies, c'.key = c.key := by
  induction setCookies generalizing jar c with
  | nil => exact ⟨c, hc, rfl⟩
  | cons d rest ih =>
      by_cases hkey : c.key = d.key
      · obtain ⟨c', hc', hk⟩ := ih (mem_setCookie.2 (.inr rfl) : d ∈ jar.setCookie d)
        exact ⟨c', hc', hk.trans hkey.symm⟩
      · exact ih (mem_setCookie.2 (.inl ⟨hc, hkey⟩))

theorem exists_key_mem_extractCookies {setCookies : List Cookie} {c : Cookie}
    (hc : c ∈ setCookies) : ∃ c' ∈ jar.extractCookies setCookies, c'.key = c.key := by
  induction setCookies generalizing jar with
  | nil => cases hc
  | cons d rest ih =>
      rcases List.mem_cons.1 hc with rfl | hc
      · exact exists_key_mem_extractCookies_of_mem (mem_setCookie.2 (.inr rfl)) rest
      · exact ih hc

theorem foldlM_getStep_some (jar : CookieJar) (v : String) :
    jar.foldlM (getStep name) (some v) =
      match jar.filter (·.name = name) with
      | [] => .ok (some v)
      | _ => .error .cookieConflict := by
  induction jar with
  | nil => rfl
  | cons c jar ih =>
      by_cases hc : c.name = name
      · simp [getStep, hc]
      · rw [List.foldlM_cons, getStep, if_neg hc, except_ok_bind, ih,
          List.filter_cons_of_neg (by simpa using hc)]

/-- The loop of `get` finds the value of the one cookie of the name, `None` without one, and
raises with several. -/
theorem get_eq (jar : CookieJar) (name : String) :
    jar.get name =
      match jar.filter (·.name = name) with
      | [] => .ok none
      | [c] => .ok (some c.value)
      | _ => .error .cookieConflict := by
  induction jar with
  | nil => rfl
  | cons c jar ih =>
      by_cases hc : c.name = name
      · simp only [get, List.foldlM_cons, getStep, hc, if_true, except_ok_bind,
          foldlM_getStep_some, List.filter_cons, decide_True]
        generalize jar.filter (·.name = name) = named
        cases named <;> rfl
      · rw [get, List.foldlM_cons, getStep, if_neg hc, except_ok_bind, ← get, ih,
          List.filter_cons_of_neg (by simpa using hc)]

theorem eq_cookieConflict_of_get_eq_error {e : PyException} (h : jar.get name = .error e) :
    e = .cookieConflict := by
  rw [get_eq] at h
  split at h <;> cases h
  rfl

theorem get_eq_conflict {c d : Cookie} (hc : c ∈ jar) (hd : d ∈ jar) (hcn : c.name = name)
    (hdn : d.name = name) (hcd : c ≠ d) : jar.get name = .error .cookieConflict := by
  have hc' : c ∈ jar.filter (·.name = name) := List.mem_filter.2 ⟨hc, by simpa using hcn⟩
  have hd' : d ∈ jar.filter (·.name = name) := List.mem_filter.2 ⟨hd, by simpa using hdn⟩
  rcases h : jar.filter (·.name = name) with _ | ⟨x, _ | ⟨y, rest⟩⟩
  · simp [h] at hc'
  · simp only [h, List.mem_singleton] at hc' hd'
    exact absurd (hc'.trans hd'.symm) hcd
  · rw [get_eq, h]

/-- On a jar of `http.cookiejar`, `get` raises exactly when the name is filed under two keys:
two domains or two paths. -/
theorem get_eq_conflict_iff (h : jar.KeysNodup) :
    jar.get name = .error .cookieConflict ↔
      ∃ c ∈ jar, ∃ d ∈ jar, c.name = name ∧ d.name = name ∧ c.key ≠ d.key := by
  constructor
  · intro hget
    rw [get_eq] at hget
    rcases hf : jar.filter (·.name = name) with _ | ⟨x, _ | ⟨y, rest⟩⟩ <;> rw [hf] at hget
    · cases hget
    · cases hget
    have hnodup : ((jar.filter (·.name = name)).map Cookie.key).Nodup :=
      h.sublist ((List.filter_sublist _).map _)
    have hx : x ∈ jar.filter (·.name = name) := by simp [hf]
    have hy : y ∈ jar.filter (·.name = name) := by simp [hf]
    simp only [List.mem_filter, decide_eq_true_eq] at hx hy
    rw [hf, List.map_cons, List.map_cons, List.nodup_cons, List.mem_cons] at hnodup
    exact ⟨x, hx.1, y, hy.1, hx.2, hy.2, fun hk => hnodup.1 (.inl hk)⟩
  · rintro ⟨c, hc, d, hd, hcn, hdn, hkey⟩
    exact get_eq_conflict hc hd hcn hdn fun hcd => hkey (congrArg Cookie.key hcd)

theorem get_extractCookies_conflict {setCookies : List Cookie} {c d : Cookie}
    (hc : c ∈ setCookies) (hd : d ∈ setCookies) (hcn : c.name = name) (hdn : d.name = name)
    (hkey : c.key ≠ d.key) : (jar.extractCookies setCookies).get name = .error .cookieConflict := by
  obtain ⟨c', hc', hck⟩ : ∃ c' ∈ jar.extractCookies setCookies, c'.key = c.key :=
    exists_key_mem_extractCookies hc
  obtain ⟨d', hd', hdk⟩ : ∃ d' ∈ jar.extractCookies setCookies, d'.key = d.key :=
    exists_key_mem_extractCookies hd
  have hname : ∀ {e e' : Cookie}, e.key = e'.key → e.name = e'.name := fun h =>
    congrArg (fun k : String × String × String => k.2.2) h
  exact get_eq_conflict hc' hd' ((hname hck).trans hcn) ((hname hdk).trans hdn)
    fun h => hkey (hck.symm.trans ((congrArg Cookie.key h).trans hdk))

/-- On the jar of one response, cleared before the request, `get` succeeds exactly when the
response does not set the name under two keys. -/
theorem get_extractCookies_nil_eq_ok_iff (setCookies : List Cookie) (name : String) :
    (∃ v, (extractCookies [] setCookies).get name = .ok v) ↔ ¬SetsTwice setCookies name := by
  constructor
  · rintro ⟨v, hv⟩ ⟨c, hc, d, hd, hcn, hdn, hkey⟩
    rw [get_extractCookies_conflict hc hd hcn hdn hkey] at hv
    cases hv
  · intro hnot
    rcases h : (extractCookies [] setCookies).get name with e | v
    · obtain rfl := eq_cookieConflict_of_get_eq_error h
      obtain ⟨c, hc, d, hd, hcn, hdn, hkey⟩ :=
        (get_eq_conflict_iff ((show KeysNodup [] from List.nodup_nil).extractCookies setCookies)).1 h
      have hsets : ∀ {e : Cookie}, e ∈ extractCookies [] setCookies → e ∈ setCookies :=
        fun he => (mem_extractCookies he).resolve_left (List.not_mem_nil _)
      exact absurd ⟨c, hsets hc, d, hsets hd, hcn, hdn, hkey⟩ hnot
    · exact ⟨v, rfl⟩

end CookieJar

end KasaTransport
