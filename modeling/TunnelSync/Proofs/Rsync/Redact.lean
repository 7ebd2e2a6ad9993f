import TunnelSync.Proofs.Text.Replace
import TunnelSync.Proofs.Transport.Shell
import TunnelSync.Proofs.Url.Endpoint
import TunnelSync.Transport.Run

/-!
# Nothing of a secret is shown

The mask has no character in common with a secret without asterisks, nor with its other spellings:
coding puts in no asterisk. So none of them is left when its turn has come, and no later turn brings
one back.

* `spellings` : what a secret is written as in an argument
* `redactArg_hides`, `redactArg_eq_self` : one argument
* `redactArgs_hides` : all arguments, and those of every copy
-/

namespace TunnelSync.Rsync

/-- What a secret is written as: as it is, in the query of a URL, and in a proxy command. -/
def spellings (secret : Text) : List Text :=
  [secret, Url.Form.encode secret, doublePercent (Url.Form.encode secret)]

/-! ### No spelling is empty or has an asterisk -/

theorem mem_doublePercent_iff {c : Char} {t : Text} : c ∈ doublePercent t ↔ c ∈ t := by
  rw [doublePercent, List.mem_flatMap]
  constructor
  · rintro ⟨d, hd, hc⟩
    split at hc
    next hsign =>
      obtain rfl : c = '%' := by simpa using hc
      rwa [← beq_iff_eq.mp hsign]
    next =>
      rw [List.mem_singleton.mp hc]
      exact hd
  · intro hc
    refine ⟨c, hc, ?_⟩
    split
    next hsign => simp [beq_iff_eq.mp hsign]
    next => simp

theorem doublePercent_ne_nil {t : Text} (h : t ≠ []) : doublePercent t ≠ [] := by
  obtain ⟨c, hc⟩ := List.exists_mem_of_ne_nil t h
  exact List.ne_nil_of_mem (mem_doublePercent_iff.mpr hc)

theorem encodeByte_ne_nil (b : UInt8) : Url.Form.encodeByte b ≠ [] :=
  Url.forall_byte (p := fun b => Url.Form.encodeByte b ≠ []) (by decide +kernel) b

theorem encode_ne_nil {t : Text} (h : t ≠ []) : Url.Form.encode t ≠ [] := by
  obtain ⟨c, hc⟩ := List.exists_mem_of_ne_nil t h
  obtain ⟨b, hb⟩ := List.exists_mem_of_ne_nil _ (Text.utf8EncodeChar_ne_nil c)
  obtain ⟨d, hd⟩ := List.exists_mem_of_ne_nil _ (encodeByte_ne_nil b)
  exact List.ne_nil_of_mem
    (List.mem_flatMap.mpr ⟨b, List.mem_flatMap.mpr ⟨c, hc, hb⟩, hd⟩)

theorem eq_of_star_mem_encodeByte {b : UInt8} (h : '*' ∈ Url.Form.encodeByte b) : b = 0x2A :=
  Url.forall_byte (p := fun b => '*' ∈ Url.Form.encodeByte b → b = 0x2A) (by decide +kernel) b h

theorem star_mem_of_mem_encode {t : Text} (h : '*' ∈ Url.Form.encode t) : '*' ∈ t := by
  obtain ⟨b, hb, hstar⟩ := List.mem_flatMap.mp h
  obtain ⟨c, hc, hbyte⟩ := List.mem_flatMap.mp hb
  rw [eq_of_star_mem_encodeByte hstar] at hbyte
  have hnumber : c.toNat = ('*' : Char).toNat := Text.toNat_of_mem_utf8EncodeChar hbyte (by decide)
  rwa [Char.toNat_inj.mp hnumber] at hc

theorem ne_nil_of_mem_spellings {secret w : Text} (h : secret ≠ []) (hw : w ∈ spellings secret) :
    w ≠ [] := by
  simp only [spellings, List.mem_cons, List.not_mem_nil, or_false] at hw
  rcases hw with rfl | rfl | rfl
  · exact h
  · exact encode_ne_nil h
  · exact doublePercent_ne_nil (encode_ne_nil h)

theorem apart_of_mem_spellings {secret w : Text} (h : '*' ∉ secret) (hw : w ∈ spellings secret) :
    Text.Apart w mask := by
  have hstar : '*' ∉ w := by
    simp only [spellings, List.mem_cons, List.not_mem_nil, or_false] at hw
    rcases hw with rfl | rfl | rfl
    · exact h
    · exact fun hs => h (star_mem_of_mem_encode hs)
    · exact fun hs => h (star_mem_of_mem_encode (mem_doublePercent_iff.mp hs))
  intro c hc hmask
  obtain rfl : c = '*' := by simpa [mask] using hmask
  exact hstar hc

/-! ### One argument -/

section
variable {secret : Text} (hne : secret ≠ []) (hstar : '*' ∉ secret)
include hne hstar

/-- No spelling is left. Each is gone after its own turn, and the turns behind it bring none back. -/
theorem redactArg_hides (arg : Text) : ∀ w ∈ spellings secret, ¬ w <:+: redactArg secret arg := by
  have hmask : mask ≠ [] := by decide
  have hgone {w t : Text} (hw : w ∈ spellings secret) : ¬ w <:+: Text.replace w mask t :=
    Text.not_infix_replace t (ne_nil_of_mem_spellings hne hw) hmask (apart_of_mem_spellings hstar hw)
  have hback {w p t : Text} (hw : w ∈ spellings secret) (h : w <:+: Text.replace p mask t) :
      w <:+: t :=
    Text.infix_of_infix_replace hmask (apart_of_mem_spellings hstar hw) h
  intro w hw h
  have hcases := hw
  simp only [spellings, List.mem_cons, List.not_mem_nil, or_false] at hcases
  rcases hcases with rfl | rfl | rfl
  · exact hgone hw h
  · exact hgone hw (hback hw h)
  · exact hgone hw (hback hw (hback hw h))

omit hne hstar

/-- An argument without a spelling is shown as it is. -/
theorem redactArg_eq_self {arg : Text} (h : ∀ w ∈ spellings secret, ¬ w <:+: arg) :
    redactArg secret arg = arg := by
  rw [redactArg, Text.replace_eq_self (h _ (by simp [spellings])),
    Text.replace_eq_self (h _ (by simp [spellings])),
    Text.replace_eq_self (h _ (by simp [spellings]))]

end

/-! ### All arguments -/

/-- Where the arguments of a copy hold the secret of its request: with curl the query of the proxy
command ends in it, and over the bridge it is the user of the destination. -/
def Exposed (t : Transport) (secret : Text) (command : Command) : Prop :=
  match t with
  | .curl _ => doublePercent (Url.Form.encode secret) <:+: command.remoteShell
  | .bridge => secret <+: command.destination
  | .custom _ => False

theorem infix_doublePercent {s t : Text} (h : s <:+: t) : doublePercent s <:+: doublePercent t := by
  obtain ⟨before, after, rfl⟩ := h
  rw [Transport.doublePercent_append, Transport.doublePercent_append]
  exact List.infix_append _ _ _

theorem exposed_curlShell {workerUrl token : Text} {u : Url} (curl : Bytes)
    (h : Url.websocket workerUrl token = .ok u) :
    doublePercent (Url.Form.encode token) <:+: Transport.curlShell curl u := by
  have hurl : Url.Form.encode token <:+: u.toText := by
    rw [Url.toText_of_websocket h]
    exact (List.suffix_append _ _).isInfix
  have hproxy : u.toText <:+: Transport.proxyCommand curl u := List.infix_append _ _ _
  have hshell : doublePercent (Transport.proxyCommand curl u) <:+: Transport.curlShell curl u :=
    List.infix_append _ _ _
  exact (infix_doublePercent (hurl.trans hproxy)).trans hshell

theorem prefix_remoteDestination (user host path : Text) :
    user <+: remoteDestination user host path := by
  rw [remoteDestination, List.append_assoc, List.append_assoc]
  exact List.prefix_append user _

theorem exposed_of_command? {t : Transport} {h : Host} {r : Request} {c : Call} {command : Command}
    (hcommand : t.command? h r c = .ok (some command)) : Exposed t r.token command := by
  cases Transport.makes_of_command? hcommand with
  | curl program hurl => exact exposed_curlShell program hurl
  | bridge => exact prefix_remoteDestination r.token Transport.loopback r.remotePath

/-- **Nothing of a secret is shown.** As many arguments are shown as there are. None of them holds
the secret or its form in a URL or in a proxy command, and those that held none of these are shown
as they are. So it is with every copy of a request whose token is the secret, although each copy
has the token in its arguments. -/
theorem redactArgs_hides {secret : Text} (hne : secret ≠ []) (hstar : '*' ∉ secret) :
    (∀ args, (redactArgs secret args).length = args.length ∧
      (∀ arg ∈ redactArgs secret args, ∀ w ∈ spellings secret, ¬ w <:+: arg) ∧
      ∀ (i : Nat) (arg : Text), args[i]? = some arg →
        (∀ w ∈ spellings secret, ¬ w <:+: arg) → (redactArgs secret args)[i]? = some arg) ∧
    ∀ (t : Transport) (h : Host) (r : Request) (c : Call) (command : Command),
      r.token = secret → t.command? h r c = .ok (some command) →
        Exposed t secret command ∧
        ∀ arg ∈ redactArgs r.token command.args, ∀ w ∈ spellings secret, ¬ w <:+: arg := by
  have hmap (args : List Text) : redactArgs secret args = args.map (redactArg secret) := by
    rw [redactArgs, if_neg (by simpa using hne)]
  have hhidden (args : List Text) :
      ∀ arg ∈ redactArgs secret args, ∀ w ∈ spellings secret, ¬ w <:+: arg := by
    rw [hmap]
    rintro _ harg
    obtain ⟨arg, -, rfl⟩ := List.mem_map.mp harg
    exact redactArg_hides hne hstar arg
  refine ⟨fun args => ⟨?_, hhidden args, fun i arg hi hclean => ?_⟩, ?_⟩
  · rw [hmap, List.length_map]
  · rw [hmap, List.getElem?_map, hi, Option.map_some, redactArg_eq_self hclean]
  · rintro t h r c command rfl hcommand
    exact ⟨exposed_of_command? hcommand, hhidden command.args⟩

/-- A host without files, on which the bridge gets a port. -/
def bareHost : Host :=
  { programs := ⟨.dir [], [], [], fun _ => none⟩, listen := fun _ => .ok 50123
    custom := fun _ _ => none, order := id, cancelled := false, elapsed := ⟨0, 0⟩ }

/-- A token that needs coding, and stands also in the URL of the worker, in the paths and in a
pattern. -/
def chanceRequest : Request :=
  { workerUrl := "https://a+b@[::1]/a%2Bb", token := "a+b", localPath := Text.encode "a+b"
    remotePath := "/a%%2Bb", options := { Options.none with exclude := ["a+ba+b"] } }

theorem exists_websocket_chanceRequest :
    ∃ u, Url.websocket chanceRequest.workerUrl chanceRequest.token = .ok u := by
  have hok : (Url.websocket chanceRequest.workerUrl chanceRequest.token).isOk = true := by
    decide +kernel
  cases hu : Url.websocket chanceRequest.workerUrl chanceRequest.token with
  | error e =>
      rw [hu] at hok
      cases hok
  | ok u => exact ⟨u, rfl⟩

theorem redactArgs_hides_chance :
    chanceRequest.token ≠ [] ∧ '*' ∉ chanceRequest.token ∧
    redactArgs chanceRequest.token ["-az", "a+ba+b"] = ["-az".toList, "******".toList] ∧
    ∀ t ∈ [Transport.curl (Text.encode "curl"), Transport.bridge],
      ∃ command, t.command? bareHost chanceRequest ⟨1, .all⟩ = .ok (some command) ∧
        Exposed t chanceRequest.token command ∧
        ∀ arg ∈ redactArgs chanceRequest.token command.args,
          ∀ w ∈ spellings chanceRequest.token, ¬ w <:+: arg := by
  have hne : chanceRequest.token ≠ [] := by decide
  have hstar : '*' ∉ chanceRequest.token := by decide
  obtain ⟨-, hcopies⟩ := redactArgs_hides hne hstar
  obtain ⟨u, hu⟩ := exists_websocket_chanceRequest
  refine ⟨hne, hstar, by decide, fun t ht => ?_⟩
  simp only [List.mem_cons, List.not_mem_nil, or_false] at ht
  obtain ⟨command, hcommand⟩ :
      ∃ command, t.command? bareHost chanceRequest ⟨1, .all⟩ = .ok (some command) := by
    rcases ht with rfl | rfl <;> simp only [Transport.command?, hu] <;> exact ⟨_, rfl⟩
  exact ⟨command, hcommand, hcopies t bareHost chanceRequest ⟨1, .all⟩ command rfl hcommand⟩

end TunnelSync.Rsync
