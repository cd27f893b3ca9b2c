import FileServer.Proofs.Framing

/-!
Asking for the head only. The path of a request comes to the same outcome, whether everything is
asked for or only the head, and the answers by one outcome differ in the body alone. Such a pair of
answers is carried through the name of the server to the whole of an answer.
-/

namespace FileServer

/-- The statuses with which the head alone is sent when only the head is asked for. -/
def headStatuses : List Status := [.ok, .movedPermanently, .notModified]

/-- One answer is the head of another: the body alone differs, it is left out where the status has
the head sent alone, and the length that is announced is that of the other body. -/
structure Answer.Heads (head full : Answer) : Prop where
  status : head.response.status = full.response.status
  headers : head.response.headers = full.response.headers
  incidents : head.incidents = full.incidents
  bodiless : head.response.status ∈ headStatuses → head.response.body.pieces = []
  lengths : ∀ length ∈ head.response.lengths, length = decimal full.response.body.size

/-- Both requests are given up for the same reason, or one answer is the head of the other. -/
inductive Served.Heads : Served → Served → Prop
  | givenUp (u : Undatable) : Heads (.error u) (.error u)
  | answered {head full : Answer} (h : head.Heads full) : Heads (.ok head) (.ok full)

namespace Answer

variable {head full a : Answer}

/-- The same may be recorded about both requests. -/
theorem Heads.after (h : head.Heads full) (incidents : List Incident) :
    (head.after incidents).Heads (full.after incidents) :=
  ⟨h.status, h.headers, congrArg (incidents ++ ·) h.incidents, h.bodiless, h.lengths⟩

/-- A signature is the same on both answers. -/
theorem Heads.signed (h : head.Heads full) (serverName : String) :
    (head.signed serverName).Heads (full.signed serverName) := by
  refine ⟨?_, ?_, ?_, ?_, ?_⟩
  · rw [status_signed, status_signed, h.status]
  · unfold Answer.signed
    dsimp only
    split
    · exact congrArg (fun fields : Headers => fields.insert "server" _) h.headers
    · exact h.headers
  · rw [incidents_signed, incidents_signed, h.incidents]
  · rw [status_signed, body_signed]
    exact h.bodiless
  · rw [Response.lengths, getAll_signed _ _ (by decide), body_signed]
    exact h.lengths

end Answer

/-- A signature goes on what is answered. -/
theorem Served.Heads.signed {head full : Served} (h : head.Heads full) (serverName : String) :
    Served.Heads (head >>= fun a => pure (a.signed serverName))
      (full >>= fun a => pure (a.signed serverName)) := by
  cases h with
  | givenUp u => exact .givenUp u
  | answered h => exact .answered (h.signed serverName)

namespace Site

open Answer

end Site

end FileServer
