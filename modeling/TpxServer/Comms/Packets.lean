import TpxServer.Comms.Timepix

/-!
# Complete packets

`commandRecv` processes what one read delivers if it is a complete packet. Anything else is reported
and forgotten: the handler returns without a new read. A response of less than the header in its
length field, or with an error code outside the tables, has no defined behaviour.
-/

namespace TpxServer.Comms

namespace TimepixConnectionManager

/-- **Complete packet.** What passes all checks of `commandRecv`, and its table look-ups. -/
structure CompletePacket (bytes : List Byte) : Prop where
  size_ge : 20 ≤ bytes.length
  aligned : bytes.length % 4 = 0
  reply : responseWord bytes 0 &&& TpxCommand.CMD_REPLY.code ≠ 0
  error_known : responseWord bytes 2 = 0 ∨ (getErrorString (responseWord bytes 2)).isSome
  chip : responseWord bytes 3 = 0
  size_le : responseSize bytes ≤ bytes.length
  header_le : 16 ≤ responseSize bytes

theorem completePacket_iff {bytes : List Byte} :
    CompletePacket bytes ↔ (20 ≤ bytes.length ∧ bytes.length % 4 = 0 ∧
      responseWord bytes 0 &&& TpxCommand.CMD_REPLY.code ≠ 0 ∧
      (responseWord bytes 2 = 0 ∨ (getErrorString (responseWord bytes 2)).isSome) ∧
      responseWord bytes 3 = 0 ∧ responseSize bytes ≤ bytes.length ∧ 16 ≤ responseSize bytes) := by
  constructor
  · rintro ⟨h1, h2, h3, h4, h5, h6, h7⟩
    exact ⟨h1, h2, h3, h4, h5, h6, h7⟩
  · rintro ⟨h1, h2, h3, h4, h5, h6, h7⟩
    exact ⟨h1, h2, h3, h4, h5, h6, h7⟩

instance (bytes : List Byte) : Decidable (CompletePacket bytes) :=
  decidable_of_iff _ completePacket_iff.symm

/-! ## Words of the buffer -/

/-- A word depends on its own bytes only, whatever an earlier response left behind them. -/
theorem responseWord_append {bytes : List Byte} (rest : List Byte) {ix : ℕ}
    (h : 4 * ix + 4 ≤ bytes.length) :
    responseWord (bytes ++ rest) ix = responseWord bytes ix := by
  unfold responseWord wordAt
  rw [wordBytes_append_left bytes _ h]

section Append

variable {bytes : List Byte} (rest : List Byte) (h : 20 ≤ bytes.length)
include h

theorem responseCommand_append : responseCommand (bytes ++ rest) = responseCommand bytes := by
  unfold responseCommand
  rw [responseWord_append rest (by omega)]

theorem responseSize_append : responseSize (bytes ++ rest) = responseSize bytes := by
  unfold responseSize
  rw [responseWord_append rest (by omega)]

theorem responseData_append (hsize : responseSize bytes ≤ bytes.length) :
    responseData (bytes ++ rest) = responseData bytes := by
  unfold responseData
  rw [responseSize_append rest h]
  refine List.map_congr_left fun i hi => ?_
  rw [List.mem_range] at hi
  exact responseWord_append rest (by omega)

theorem reportError_append (s : CommsThread) :
    reportError (bytes ++ rest) s = reportError bytes s := by
  unfold reportError
  rw [responseWord_append rest (by omega), responseCommand_append rest h]

end Append

/-! ## The handler of a read -/

/-- The states that differ in the signals only. -/
def SameButSignals (s s' : CommsThread) : Prop := ∃ signals, s' = { s with signals := signals }

theorem SameButSignals.refl (s : CommsThread) : SameButSignals s s := ⟨s.signals, rfl⟩

theorem SameButSignals.sendErr (s : CommsThread) (str : String) :
    SameButSignals s (s.sendErr str) := ⟨_, rfl⟩

theorem sameButSignals_reportError {buffer : List Byte} {s s' : CommsThread}
    (h : reportError buffer s = some s') : SameButSignals s s' := by
  unfold reportError at h
  dsimp only at h
  split at h
  · cases h
    exact SameButSignals.refl s
  · obtain ⟨str, -, rfl⟩ := Option.map_eq_some_iff.mp h
    exact SameButSignals.sendErr s _

theorem reportError_isSome_iff {buffer : List Byte} {s : CommsThread} :
    (reportError buffer s).isSome ↔
      responseWord buffer 2 = 0 ∨ (getErrorString (responseWord buffer 2)).isSome := by
  unfold reportError
  dsimp only
  split
  · rename_i h
    exact iff_of_true rfl (Or.inl h)
  · rename_i h
    rw [Option.isSome_map]
    exact ⟨Or.inr, fun h' => h'.resolve_left h⟩

section Recv

variable {s : CommsThread} {buffer bytes : List Byte}

/-- The checks of `commandRecv` on the bytes of one read. -/
theorem commandRecv_eq (halive : s.mTpxManager.mIsCancelled = false)
    (hbuffer : s.mTpxManager.mResponseBuffer = fill buffer bytes) (h20 : 20 ≤ bytes.length) :
    commandRecv none bytes.length s =
      if bytes.length % 4 ≠ 0 then
        .ok (s.sendErr ("Received an incomplete packet (" ++ toString bytes.length ++ " bytes)"))
      else if responseWord bytes 0 &&& TpxCommand.CMD_REPLY.code = 0 then
        .ok (s.sendErr "Received a packet without the REPLY bit set")
      else
        match reportError bytes s with
        | none => .undefined
        | some s =>
          if responseWord bytes 3 ≠ 0 then
            .ok (s.sendErr ("Chip number in response was not zero (value=" ++
              toString (responseWord bytes 3).toNat ++ ")"))
          else if bytes.length < responseSize bytes then
            .ok (s.sendErr ("Timepix sent " ++ toString (responseSize bytes) ++
              " bytes, only received " ++ toString bytes.length ++ " bytes"))
          else if responseSize bytes < 16 then .undefined
          else processRecv (responseCommand bytes) (responseData (fill buffer bytes)) s := by
  unfold commandRecv
  rw [if_neg (ne_true_of_eq_false halive)]
  dsimp only
  rw [hbuffer, fill, responseWord_append _ (show 4 * 0 + 4 ≤ bytes.length by omega),
    responseWord_append _ (show 4 * 3 + 4 ≤ bytes.length by omega), reportError_append _ h20,
    responseSize_append _ h20, responseCommand_append _ h20]
  by_cases halign : bytes.length % 4 ≠ 0
  · rw [if_pos (Or.inr halign), if_pos halign]
  · exact (if_neg (by omega)).trans (if_neg halign).symm

/-- A complete packet is processed. -/
theorem commandRecv_complete (halive : s.mTpxManager.mIsCancelled = false)
    (hbuffer : s.mTpxManager.mResponseBuffer = fill buffer bytes) (h : CompletePacket bytes) :
    ∃ s', SameButSignals s s' ∧ commandRecv none bytes.length s =
      processRecv (responseCommand bytes) (responseData bytes) s' := by
  obtain ⟨s', hs'⟩ := Option.isSome_iff_exists.mp
    (reportError_isSome_iff (s := s).mpr h.error_known)
  refine ⟨s', sameButSignals_reportError hs', ?_⟩
  have hsize := h.size_le
  have hheader := h.header_le
  rw [commandRecv_eq halive hbuffer h.size_ge, if_neg (not_not.mpr h.aligned), if_neg h.reply, hs']
  dsimp only
  rw [if_neg (not_not.mpr h.chip), if_neg (by omega), if_neg (by omega),
    fill, responseData_append _ h.size_ge hsize]

/-- Anything else has no effect beyond a message, or no defined behaviour. -/
theorem commandRecv_incomplete (halive : s.mTpxManager.mIsCancelled = false)
    (hbuffer : s.mTpxManager.mResponseBuffer = fill buffer bytes) (h : ¬ CompletePacket bytes) :
    commandRecv none bytes.length s = .undefined ∨
      ∃ s', SameButSignals s s' ∧ commandRecv none bytes.length s = .ok s' := by
  by_cases h20 : 20 ≤ bytes.length
  · rw [commandRecv_eq halive hbuffer h20]
    by_cases halign : bytes.length % 4 ≠ 0
    · rw [if_pos halign]
      exact Or.inr ⟨_, SameButSignals.sendErr s _, rfl⟩
    rw [if_neg halign]
    by_cases hreply : responseWord bytes 0 &&& TpxCommand.CMD_REPLY.code = 0
    · rw [if_pos hreply]
      exact Or.inr ⟨_, SameButSignals.sendErr s _, rfl⟩
    rw [if_neg hreply]
    cases herr : reportError bytes s with
    | none => exact Or.inl rfl
    | some s' =>
      have hsame : ∀ str, SameButSignals s (s'.sendErr str) := by
        obtain ⟨signals, rfl⟩ := sameButSignals_reportError herr
        exact fun str => ⟨_, rfl⟩
      dsimp only
      by_cases hchip : responseWord bytes 3 ≠ 0
      · rw [if_pos hchip]
        exact Or.inr ⟨_, hsame _, rfl⟩
      rw [if_neg hchip]
      by_cases hsize : bytes.length < responseSize bytes
      · rw [if_pos hsize]
        exact Or.inr ⟨_, hsame _, rfl⟩
      rw [if_neg hsize]
      by_cases hheader : responseSize bytes < 16
      · rw [if_pos hheader]
        exact Or.inl rfl
      -- all checks passed
      have herr' := reportError_isSome_iff.mp (Option.isSome_iff_exists.mpr ⟨s', herr⟩)
      exact absurd ⟨h20, not_not.mp halign, hreply, herr', not_not.mp hchip, by omega, by omega⟩ h
  · unfold commandRecv
    rw [if_neg (ne_true_of_eq_false halive)]
    dsimp only
    rw [if_pos (Or.inl (by omega))]
    exact Or.inr ⟨_, SameButSignals.sendErr s _, rfl⟩

end Recv

end TimepixConnectionManager

end TpxServer.Comms
