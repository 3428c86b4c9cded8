import Gateway.Modem.Procedure
import Gateway.Proofs.Modem.LockReport

/-!
# The texts of lock commands

What the commands about locks look like: those about bands are a mark and
numbers between commas, in the order in which the modem has them
(`toList_lteLock`, `toList_nrLock`), and the command that the bus makes of
each of them is the text itself (`AtCommand.ofText_of_at`).
-/

namespace Gateway.Modem

namespace AtCommand

/-- A text that begins with AT is a command as it stands. -/
theorem ofText_of_at {text : String} {rest : List Char}
    (h : text.toList = 'A' :: 'T' :: rest) :
    ofText text = .ok ⟨text, answerLimit⟩ := by
  have hstripped : stripped text = 'A' :: 'T' :: rest := by
    rw [stripped, h]
    rfl
  have haddresses : addressesModem ('A' :: 'T' :: rest) = true :=
    rfl
  rw [ofText, hstripped]
  simp only [haddresses, if_true]
  rw [← h, String.ofList_toList]

end AtCommand

namespace Procedure

/-- What a command about band locks begins with. -/
def bandMark : List Char := "AT+SPLBAND=".toList

theorem listed_zero_cons (n : UInt32) (numbers : List UInt32) :
    LockReport.listed (0 :: n :: numbers)
      = '0' :: ',' :: LockReport.listed (n :: numbers) := by
  have hzero : (toString (0 : UInt32).toNat).toList = ['0'] := by decide
  rw [LockReport.listed_cons_cons, hzero]
  rfl

theorem toList_lteLock (tdd fdd : UInt32) :
    (lteLock tdd fdd).toList
      = bandMark ++ LockReport.listed [1, 0, tdd, 0, fdd, 0] := by
  have hhead : "AT+SPLBAND=1,0,".toList
      = bandMark ++ ['1', ',', '0', ','] := by decide
  have hmiddle : ",0,".toList = [',', '0', ','] := by decide
  have hend : ",0".toList = ',' :: LockReport.listed [0] := by decide
  have hone : (toString (1 : UInt32).toNat).toList = ['1'] := by decide
  rw [LockReport.listed_cons_cons, hone, listed_zero_cons,
    LockReport.listed_cons_cons, listed_zero_cons,
    LockReport.listed_cons_cons]
  unfold lteLock
  rw [String.toList_append, String.toList_append, String.toList_append,
    String.toList_append, hhead, hmiddle, hend]
  simp only [List.append_assoc, List.cons_append, List.nil_append]

theorem toList_nrLock (tdd fdd : UInt32) :
    (nrLock tdd fdd).toList
      = bandMark ++ LockReport.listed [2, fdd, 0, tdd, 0] := by
  have hhead : "AT+SPLBAND=2,".toList = bandMark ++ ['2', ','] := by
    decide
  have hmiddle : ",0,".toList = [',', '0', ','] := by decide
  have hend : ",0".toList = ',' :: LockReport.listed [0] := by decide
  have htwo : (toString (2 : UInt32).toNat).toList = ['2'] := by decide
  rw [LockReport.listed_cons_cons, htwo, LockReport.listed_cons_cons,
    listed_zero_cons, LockReport.listed_cons_cons]
  unfold nrLock
  rw [String.toList_append, String.toList_append, String.toList_append,
    String.toList_append, hhead, hmiddle, hend]
  simp only [List.append_assoc, List.cons_append, List.nil_append]

/-- Only the two kinds of locks are among the commands of some masks. -/
theorem forall_mem_lockCommands {P : String → Prop}
    (hlte : ∀ tdd fdd, P (lteLock tdd fdd))
    (hnr : ∀ tdd fdd, P (nrLock tdd fdd)) (masks : BandMasks) :
    ∀ text ∈ lockCommands masks, P text := by
  intro text htext
  simp only [lockCommands, List.mem_append, List.mem_cons] at htext
  rcases htext with (rfl | htext) | htext
  · exact hnr 0 0
  · split at htext
    · obtain rfl := List.mem_singleton.mp htext
      exact hlte _ _
    · cases htext
  · split at htext
    · obtain rfl := List.mem_singleton.mp htext
      exact hnr _ _
    · cases htext

end Procedure

end Gateway.Modem
