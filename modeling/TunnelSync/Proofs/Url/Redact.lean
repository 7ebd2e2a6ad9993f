import Mathlib.Data.List.Forall2
import TunnelSync.Proofs.Url.Text

/-!
# A URL without its tokens

What is shown of a URL has the same pairs in its query, with three stars for the value of each pair
whose key is read as that of a token. Two URLs are shown alike exactly if they differ in nothing
else.

* `SameButTokens` : pairs that differ in tokens only
* `pairs_redact`, `redact_idem`, `toText_redact_eq_iff` : what is shown of any URL
* `redact_of_websocket` : what is shown of an endpoint
* `redact_hides_tokens` : all of it
-/

namespace TunnelSync.Url

/-! ### Pairs -/

/-- Pairs with the same keys, and with the same values but for those of tokens. -/
def SameButTokens (ps qs : List (Text × Text)) : Prop :=
  List.Forall₂ (fun p q => p.1 = q.1 ∧ (p.1 ≠ tokenKey → p.2 = q.2)) ps qs

theorem redactPair_eq (p : Text × Text) :
    redactPair p = (p.1, if p.1 = tokenKey then "***".toList else p.2) := by
  unfold redactPair
  split <;> rfl

theorem redactPair_eq_iff {p q : Text × Text} :
    redactPair p = redactPair q ↔ p.1 = q.1 ∧ (p.1 ≠ tokenKey → p.2 = q.2) := by
  rw [redactPair_eq, redactPair_eq, Prod.mk.injEq]
  refine and_congr_right fun hkey => ?_
  rw [← hkey]
  by_cases htoken : p.1 = tokenKey <;> simp [htoken]

theorem map_redactPair_eq_iff {ps qs : List (Text × Text)} :
    ps.map redactPair = qs.map redactPair ↔ SameButTokens ps qs := by
  rw [← List.forall₂_eq_eq_eq, List.forall₂_map_left_iff, List.forall₂_map_right_iff]
  simp only [redactPair_eq_iff]
  rfl

theorem redactPair_idem (p : Text × Text) : redactPair (redactPair p) = redactPair p := by
  rw [redactPair_eq_iff, redactPair_eq]
  exact ⟨rfl, fun h => if_neg h⟩

/-! ### Any URL -/

variable {u v : Url} {q r : Text}

theorem query_redact (hq : u.query = some q) :
    (redact u).query = some (Form.encodePairs ((Form.pairs q).map redactPair)) := by
  rw [redact, hq]
  rfl

/-- The pairs that are shown. -/
theorem pairs_redact (hq : u.query = some q) :
    ∃ r, (redact u).query = some r ∧ Form.pairs r = (Form.pairs q).map redactPair :=
  ⟨_, query_redact hq, Form.pairs_encodePairs _⟩

theorem redact_of_query_none (hq : u.query = none) : redact u = u := by
  rw [redact, hq, Option.map_none, ← hq]

/-- What is shown once is shown as it is. -/
theorem redact_idem (u : Url) : redact (redact u) = redact u := by
  cases hq : u.query with
  | none => rw [redact_of_query_none hq, redact_of_query_none hq]
  | some q =>
      have hpairs : redactPair ∘ redactPair = redactPair := funext redactPair_idem
      have hagain : (redact (redact u)).query = (redact u).query := by
        rw [query_redact (query_redact hq), Form.pairs_encodePairs, List.map_map, hpairs,
          query_redact hq]
      calc redact (redact u) = { redact u with query := (redact (redact u)).query } := rfl
        _ = redact u := by rw [hagain]

theorem toText_redact (u : Url) :
    (redact u).toText = u.place ++ (marked '?' (redact u).query ++ marked '#' u.fragment) :=
  toText_eq (redact u)

/-- URLs that agree outside the query are shown alike exactly if their queries agree but for
tokens. -/
theorem toText_redact_eq_iff (hq : u.query = some q) (hr : v.query = some r)
    (hplace : u.place = v.place) (hfragment : u.fragment = v.fragment) :
    (redact u).toText = (redact v).toText ↔ SameButTokens (Form.pairs q) (Form.pairs r) := by
  have hpairs : Function.Injective Form.encodePairs :=
    Function.LeftInverse.injective Form.pairs_encodePairs
  rw [toText_redact, toText_redact, query_redact hq, query_redact hr, hplace, hfragment,
    List.append_cancel_left_eq, List.append_cancel_right_eq, marked, marked, List.cons.injEq,
    and_iff_right rfl, hpairs.eq_iff, map_redactPair_eq_iff]

theorem Legible.redact (h : Legible u) : Legible (redact u) := by
  refine ⟨h.place, fun q hq => ?_⟩
  cases hquery : u.query with
  | none =>
      rw [redact_of_query_none hquery, hquery] at hq
      cases hq
  | some p =>
      obtain rfl := Option.some.inj ((query_redact hquery).symm.trans hq)
      intro hmem
      rcases Text.mem_intercalate hmem with hmem | ⟨t, ht, hmem⟩
      · cases List.mem_singleton.mp hmem
      · obtain ⟨pair, -, rfl⟩ := List.mem_map.mp ht
        have hwritten := (written_of_mem_encodePair hmem).2
        exact absurd hwritten (by decide)

theorem toText_redact_of_toText_eq (hu : Legible u) (hv : Legible v)
    (h : v.toText = (redact u).toText) : (redact v).toText = v.toText := by
  obtain ⟨hplace, hquery, hfragment⟩ := parts_eq_of_toText_eq hv hu.redact h
  have hagain : (redact v).query = (redact (redact u)).query := by
    show v.query.map _ = (redact u).query.map _
    rw [hquery]
  rw [h, toText_redact, toText_redact, hagain, redact_idem, hplace, hfragment]
  rfl

/-! ### An endpoint -/

theorem exists_addPair_of_websocket {workerUrl token : Text}
    (h : websocket workerUrl token = .ok u) :
    ∃ base : Url, ∀ t, websocket workerUrl t = .ok (base.addPair (tokenKey, t)) := by
  unfold websocket at h ⊢
  split at h
  next => cases h
  next =>
    split at h
    next => cases h
    next =>
      split at h
      next => cases h
      next => exact ⟨_, fun t => rfl⟩

/-- What is shown of an endpoint does not depend on the token. -/
theorem redact_of_websocket {workerUrl token : Text} (h : websocket workerUrl token = .ok u)
    (token' : Text) :
    ∃ v, websocket workerUrl token' = .ok v ∧ redact u = redact v ∧
      (redact u).toText = u.place ++ "?token=***".toList := by
  have hshown {t : Text} {w : Url} (hw : websocket workerUrl t = .ok w) :
      (redact w).query = some "token=***".toList := by
    rw [query_redact (query_of_websocket hw).1, Form.pairs_encodePair, List.map_singleton,
      redactPair_eq, if_pos rfl]
    show some (Form.encodePairs [(tokenKey, "***".toList)]) = _
    decide
  obtain ⟨base, hbase⟩ := exists_addPair_of_websocket h
  obtain rfl := Except.ok.inj (h.symm.trans (hbase token))
  refine ⟨_, hbase token', ?_, ?_⟩
  · calc redact (base.addPair (tokenKey, token))
        = { base with query := (redact (base.addPair (tokenKey, token))).query } := rfl
      _ = { base with query := (redact (base.addPair (tokenKey, token'))).query } := by
          rw [hshown h, hshown (hbase token')]
      _ = redact (base.addPair (tokenKey, token')) := rfl
  · rw [toText_redact, hshown h, (query_of_websocket h).2, marked, marked, List.append_nil]
    rfl

/-- **What is shown of a URL depends on no token.** A worker has an endpoint for every token or for
none, and all of them are shown alike, with three stars. Of any URL only the query is shown in
another form, with the pairs that it is read as, but three stars for the value of each token. So
URLs that agree outside the query are shown alike exactly if they have the same pairs but for
tokens, and what is shown is shown as it is, as a URL and as a text. -/
theorem redact_hides_tokens :
    (∀ workerUrl token token' u, websocket workerUrl token = .ok u →
      ∃ v, websocket workerUrl token' = .ok v ∧ redact u = redact v ∧
        (redact u).toText = u.place ++ "?token=***".toList) ∧
    (∀ u : Url, redact u = { u with query := (redact u).query } ∧
      (u.query = none → redact u = u) ∧
      ∀ q, u.query = some q → ∃ r, (redact u).query = some r ∧
        Form.pairs r = (Form.pairs q).map fun p =>
          (p.1, if p.1 = tokenKey then "***".toList else p.2)) ∧
    (∀ (u v : Url) q r, u.query = some q → v.query = some r → u.place = v.place →
      u.fragment = v.fragment →
      ((redact u).toText = (redact v).toText ↔
        SameButTokens (Form.pairs q) (Form.pairs r))) ∧
    (∀ u : Url, redact (redact u) = redact u) ∧
    ∀ s t u v, parse s = .ok u → parse t = .ok v → v.toText = (redact u).toText →
      (redact v).toText = (redact u).toText := by
  refine ⟨fun workerUrl token token' u h => redact_of_websocket h token', fun u => ?_,
    fun u v q r => toText_redact_eq_iff, redact_idem, fun s t u v hu hv h => ?_⟩
  · refine ⟨rfl, redact_of_query_none, fun q hq => ?_⟩
    obtain ⟨r, hr, hpairs⟩ := pairs_redact hq
    exact ⟨r, hr, hpairs.trans (List.map_congr_left fun p _ => redactPair_eq p)⟩
  · exact (toText_redact_of_toText_eq (legible_of_parse hu) (legible_of_parse hv) h).trans h

/-- A URL with a token that is given twice, once with its key coded. -/
def twice (first second : Text) : Url :=
  { scheme := "ws"
    authority := some ⟨[], none, some (.ipv6 [0, 0, 0, 0, 0, 0, 0, 1]), none⟩
    path := .rooted [[]]
    query := some ("token=" ++ first ++ "&x=1&%74oken=" ++ second)
    fragment := some "top".toList }

theorem redact_hides_tokens_twice :
    (∃ u v, websocket "https://[::1]/" "k=1" = .ok u ∧ websocket "https://[::1]/" "k 2" = .ok v ∧
      redact u = redact v) ∧
    (redact (twice "a" "b")).toText = (redact (twice "c+d" [])).toText ∧
    ∃ v, parse "ws://[::1]/?token=***&x=1&token=***#top" = .ok v ∧
      (redact v).toText = (redact (twice "a" "b")).toText := by
  obtain ⟨hendpoint, -, hsame, -, htext⟩ := redact_hides_tokens
  have hworker : ∃ u, websocket "https://[::1]/" "k=1" = .ok u := by
    have hread : parse "https://[::1]/" = .ok { twice [] [] with
        scheme := "https"
        query := none
        fragment := none } := by decide +kernel
    obtain ⟨u, hu, -⟩ := exists_endpoint "k=1" hread (.inr ⟨.inl rfl, rfl⟩)
    exact ⟨u, hu⟩
  have hparse : parse "ws://[::1]/?token=a&x=1&%74oken=b#top" = .ok (twice "a" "b") := by
    decide +kernel
  have hshown : parse "ws://[::1]/?token=***&x=1&token=***#top" = .ok (redact (twice "a" "b")) := by
    decide +kernel
  refine ⟨?_, ?_, _, hshown, htext _ _ _ _ hparse hshown rfl⟩
  · obtain ⟨u, hu⟩ := hworker
    obtain ⟨v, hv, heq, -⟩ := hendpoint _ _ "k 2" u hu
    exact ⟨u, v, hu, hv, heq⟩
  · refine (hsame (twice "a" "b") (twice "c+d" []) _ _ rfl rfl rfl rfl).mpr ?_
    exact map_redactPair_eq_iff.mp (by decide +kernel)

end TunnelSync.Url
