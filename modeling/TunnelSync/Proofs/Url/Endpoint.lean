import TunnelSync.Proofs.Url.Worker

/-!
# The endpoint of a worker, as it is written

The text of an endpoint is that of the worker up to its path, with `ssh` behind it and the form of
the token at its end. Nothing of the token stands anywhere else.

* `exists_worker_of_websocket` : which workers have an endpoint
* `toText_of_websocket` : the text of an endpoint
* `mem_toText_iff` : a character that nothing puts in comes from the worker
-/

namespace TunnelSync.Url

/-- What a URL is written with before its query. -/
def place (u : Url) : Text := u.scheme ++ ':' :: u.beforePath ++ u.path.toText

variable {workerUrl token : Text} {u : Url}

/-- A URL with an endpoint is that of a worker of HTTP or of WebSocket. -/
theorem exists_worker_of_websocket (h : websocket workerUrl token = .ok u) :
    ∃ worker, parse workerUrl = .ok worker ∧ Endpoint worker token u := by
  by_cases hworker : ∃ worker scheme,
      parse workerUrl = .ok worker ∧ IsWebsocketOf scheme worker.scheme
  · obtain ⟨worker, scheme, hparse, hscheme⟩ := hworker
    obtain ⟨v, hv, hend⟩ := exists_endpoint token hparse hscheme
    obtain rfl : v = u := Except.ok.inj (hv.symm.trans h)
    exact ⟨worker, hparse, hend⟩
  · obtain ⟨reason, hreason⟩ := websocket_error token hworker
    rw [hreason] at h
    cases h

theorem query_of_websocket (h : websocket workerUrl token = .ok u) :
    u.query = some (Form.encodePair (tokenKey, token)) ∧ u.fragment = none := by
  unfold websocket at h
  split at h
  next => cases h
  next =>
    split at h
    next => cases h
    next =>
      split at h
      next => cases h
      next =>
        obtain rfl := Except.ok.inj h
        exact ⟨rfl, rfl⟩

/-- The form of the token stands at the end of an endpoint. -/
theorem toText_of_websocket (h : websocket workerUrl token = .ok u) :
    u.toText = u.place ++ "?token=".toList ++ Form.encode token := by
  obtain ⟨hquery, hfragment⟩ := query_of_websocket h
  have hkey : Form.encode tokenKey = "token".toList := by decide
  have hpair : Form.encodePair (tokenKey, token) = "token=".toList ++ Form.encode token := by
    rw [Form.encodePair, hkey]
    simp
  rw [toText, hquery, hfragment, hpair, place]
  simp [marked]

/-- What stands around the parts of a worker and of its endpoint. -/
def frame : Text := "http://wss://ssh?token="

/-- A character that neither the frame nor form coding puts in comes from the worker. -/
theorem mem_toText_iff {worker : Url} (hparse : parse workerUrl = .ok worker)
    (h : websocket workerUrl token = .ok u) {c : Char} (hframe : c ∉ frame)
    (hform : Form.isWritten c = false) : c ∈ u.toText ↔ c ∈ worker.place := by
  obtain ⟨worker', hparse', hend⟩ := exists_worker_of_websocket h
  obtain rfl : worker' = worker := Except.ok.inj (hparse'.symm.trans hparse)
  obtain ⟨a, ha, -⟩ := (sound_of_parse hparse hend.scheme.spec.1).authority
  have hput {t : Text} (ht : t.all (frame.contains ·) = true) : c ∉ t := fun hc =>
    hframe (by simpa using List.all_eq_true.mp ht c hc)
  have hschemes : c ∉ u.scheme ∧ c ∉ worker'.scheme := by
    rcases hend.scheme with ⟨hs | hs, ht⟩ | ⟨hs | hs, ht⟩ <;> rw [hs, ht] <;>
      exact ⟨hput (by decide), hput (by decide)⟩
  have hslash : c ≠ '/' := fun heq => hframe (heq ▸ by decide)
  have hpath : c ∈ u.path.toText ↔ c ∈ worker'.path.toText := by
    rw [hend.path, List.mem_append, Text.mem_dropTrailing_iff hslash,
      or_iff_left (hput (t := "/ssh".toList) (by decide))]
  have hquery : c ∉ "?token=".toList ++ Form.encode token := by
    rw [List.mem_append]
    rintro (hc | hc)
    · exact hput (t := "?token=".toList) (by decide) hc
    · exact Form.not_mem_encode hform hc
  have hbefore : u.beforePath = worker'.beforePath := by
    simp only [beforePath, hend.authority, ha]
  rw [toText_of_websocket h, List.append_assoc, List.mem_append, or_iff_left hquery]
  simp only [place, List.mem_append, List.mem_cons, hpath, hbefore, hschemes, false_or]

end TunnelSync.Url
