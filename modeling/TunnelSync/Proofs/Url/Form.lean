import TunnelSync.Proofs.Text.Cut
import TunnelSync.Proofs.Url.Percent
import TunnelSync.Url.Worker

/-!
# Form coding and back

Every text is read back from its form, because the form has no sign in it that separates keys from
values or pairs from each other. So is every list of pairs from a query.

* `Form.decode_encode` : a key or a value
* `Form.pairs_encodePairs` : the pairs of a query
* `pairs_addPair` : the pairs of a query with one more
-/

namespace TunnelSync.Url

namespace Form

/-! ### A key or a value -/

/-- Whether form coding may write a character: it separates nothing, and it needs no coding in the
query of a URL of the web. -/
def isWritten (c : Char) : Bool :=
  c.toNat < 0x80 && !inQuery .web c && c != '&' && c != '='

theorem encodeByte_isWritten (b : UInt8) : (encodeByte b).all isWritten = true :=
  forall_byte (p := fun b => (encodeByte b).all isWritten = true) (by decide +kernel) b

theorem isWritten_of_mem_encode {t : Text} {c : Char} (h : c ∈ encode t) : isWritten c = true := by
  obtain ⟨b, -, hc⟩ := List.mem_flatMap.mp h
  exact List.all_eq_true.mp (encodeByte_isWritten b) c hc

theorem not_mem_encode {t : Text} {c : Char} (hc : isWritten c = false) : c ∉ encode t := by
  intro h
  rw [isWritten_of_mem_encode h] at hc
  cases hc

/-- A plus sign is read as a space. -/
def spaced (t : Text) : Text := t.map fun c => if c == '+' then ' ' else c

theorem encode_spaced_of_isPlain {b : UInt8} (h : isPlain b = true) :
    Text.encode (spaced (encodeByte b)) = [b] ∧ b ≠ 0x25 :=
  forall_byte (p := fun b => isPlain b = true →
    Text.encode (spaced (encodeByte b)) = [b] ∧ b ≠ 0x25) (by decide +kernel) b h

theorem spaced_percentByte (b : UInt8) : spaced (percentByte b) = percentByte b := by
  have hplus : ∀ c ∈ percentByte b, (c != '+') = true := fun c hc =>
    forall_mem_percentByte (p := (· != '+')) (by decide) (by decide) hc
  rw [spaced]
  exact (List.map_congr_left fun c hc => by simp [bne_iff_ne.mp (hplus c hc)]).trans (List.map_id _)

theorem percentDecode_encodeByte (b : UInt8) (bs : Bytes) :
    percentDecode (Text.encode (spaced (encodeByte b)) ++ bs) = b :: percentDecode bs := by
  by_cases hplain : isPlain b = true
  · obtain ⟨hbytes, hsign⟩ := encode_spaced_of_isPlain hplain
    rw [hbytes]
    exact percentDecode_cons_of_ne hsign bs
  · by_cases hspace : b = 0x20
    · subst hspace
      exact percentDecode_cons_of_ne (by decide) bs
    · have hcoded : encodeByte b = percentByte b := by simp [encodeByte, hplain, hspace]
      rw [hcoded, spaced_percentByte, percentDecode_percentByte]

theorem percentDecode_forms (bs : Bytes) :
    percentDecode (Text.encode (spaced (bs.flatMap encodeByte))) = bs := by
  induction bs with
  | nil => simp [spaced, percentDecode]
  | cons b bs ih =>
      rw [List.flatMap_cons, spaced, List.map_append, Text.encode_append]
      exact (percentDecode_encodeByte b _).trans (congrArg _ ih)

/-- A key or a value is read back from its form. -/
theorem decode_encode (t : Text) : decode (encode t) = t :=
  calc decode (encode t) = Text.decodeLossy (percentDecode (Text.encode (spaced (encode t)))) := rfl
    _ = Text.decodeLossy (Text.encode t) := by rw [encode, percentDecode_forms]
    _ = t := Text.decodeLossy_encode t

/-! ### Pairs -/

theorem decodePair_encodePair (pair : Text × Text) : decodePair (encodePair pair) = pair := by
  have hkey : ∀ c ∈ encode pair.1, (c != '=') = true := fun c hc =>
    bne_iff_ne.mpr fun h => not_mem_encode (c := '=') (by decide) (h ▸ hc)
  rw [decodePair, encodePair, List.takeWhile_append_of_pos hkey, List.dropWhile_append_of_pos hkey]
  simp [decode_encode]

theorem not_mem_encodePair (pair : Text × Text) : '&' ∉ encodePair pair := by
  rw [encodePair, List.mem_append, List.mem_cons]
  rintro (h | h | h)
  · exact not_mem_encode (by decide) h
  · cases h
  · exact not_mem_encode (by decide) h

theorem pairs_encodePair (pair : Text × Text) : pairs (encodePair pair) = [pair] := by
  have hne : (encodePair pair).isEmpty = false := by simp [encodePair]
  rw [pairs, Text.fields_eq_splitOn, List.splitOn_eq_singleton (not_mem_encodePair pair)]
  simp [hne, decodePair_encodePair]

theorem pairs_append (q r : Text) : pairs (q ++ '&' :: r) = pairs q ++ pairs r := by
  simp [pairs, Text.fields_eq_splitOn, List.splitOn_append_cons_self]

/-- The pairs of a query are read back. -/
theorem pairs_encodePairs (ps : List (Text × Text)) : pairs (encodePairs ps) = ps := by
  induction ps with
  | nil => rfl
  | cons pair ps ih =>
      cases ps with
      | nil => simpa [encodePairs] using pairs_encodePair pair
      | cons next ps =>
          have hjoin : encodePairs (pair :: next :: ps) =
              encodePair pair ++ '&' :: encodePairs (next :: ps) := by
            simp [encodePairs]
          rw [hjoin, pairs_append, pairs_encodePair, ih]
          rfl

end Form

/-- One more pair stands behind those of the query. -/
theorem pairs_addPair (u : Url) (pair : Text × Text) :
    ∃ q, (u.addPair pair).query = some q ∧
      Form.pairs q = Form.pairs (u.query.getD []) ++ [pair] := by
  refine ⟨_, rfl, ?_⟩
  rcases u.query with _ | _ | ⟨c, q⟩
  · exact Form.pairs_encodePair pair
  · exact Form.pairs_encodePair pair
  · dsimp only
    rw [List.append_assoc, List.singleton_append, Form.pairs_append, Form.pairs_encodePair]
    rfl

end TunnelSync.Url
