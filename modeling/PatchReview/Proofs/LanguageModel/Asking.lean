import PatchReview.LanguageModel
import PatchReview.Proofs.Run.Calls

-- Asking the language model.  A question needs a key; it takes the client that is kept for that key
-- or makes one, it is recorded, and it uses up the next reply.
namespace PatchReview

-- A client is kept for the key; it is made if there was none.
def World.keepModel (key : Text) (w : World) : World :=
  if w.modelClient = some key then w
  else { w with calls := w.calls ++ [.modelClient key], modelClient := some key }

@[simp] theorem World.modelClient_keepModel (key : Text) (w : World) :
    (w.keepModel key).modelClient = some key := by
  unfold keepModel
  split
  · assumption
  · rfl

@[simp] theorem World.modelReplies_keepModel (key : Text) (w : World) :
    (w.keepModel key).modelReplies = w.modelReplies := by
  unfold keepModel
  split <;> rfl

@[simp] theorem World.host_keepModel (key : Text) (w : World) :
    (w.keepModel key).host = w.host := by
  unfold keepModel
  split <;> rfl

theorem World.calls_keepModel (key : Text) (w : World) :
    (w.keepModel key).calls =
      w.calls ++ if w.modelClient = some key then [] else [.modelClient key] := by
  unfold keepModel
  split
  · simp
  · rfl

def ModelReply.outcome : ModelReply → Except Fault Text
  | .text said => .ok (said.getD [])
  | .failed message => .error (.model message)

namespace LanguageModel

variable {key : Text} {w : World}

theorem client_on (given : key ≠ []) (reaches : w.Reaches .languageModel key) :
    (client key).on w = (.ok (), w.keepModel key) := by
  unfold client World.keepModel
  rw [if_neg (by simpa using given), Run.on_bind, Run.on_get]
  dsimp only
  split
  · rfl
  · rename_i another
    rw [Run.on_bind, Run.on_get]
    dsimp only
    rw [reaches.resolve_left another]
    rfl

theorem client_unmade {message : Text} (given : key ≠ []) (another : w.modelClient ≠ some key)
    (why : w.unmakeable .languageModel key = some message) :
    (client key).on w = (.error (.outside message), w) := by
  unfold client
  rw [if_neg (by simpa using given), Run.on_bind, Run.on_get]
  dsimp only
  rw [if_neg another, Run.on_bind, Run.on_get]
  dsimp only
  rw [why]
  rfl

-- With no reply left the model says nothing.
def nextOf (replies : List ModelReply) : ModelReply := replies.headD (.text (some []))

theorem nextReply_on (w : World) :
    nextReply.on w =
      (.ok (nextOf w.modelReplies), { w with modelReplies := w.modelReplies.tail }) := by
  cases w with
  | mk _ _ _ _ replies => cases replies <;> rfl

-- The world after a question that was asked.
def asked (system user key model : Text) (w : World) : World :=
  { w.keepModel key with
    calls := (w.keepModel key).calls ++ [.generate model system user]
    modelReplies := w.modelReplies.tail }

theorem ask_on (given : key ≠ []) (reaches : w.Reaches .languageModel key)
    (system user model : Text) :
    (ask system user key model).on w =
      ((nextOf w.modelReplies).outcome, asked system user key model w) := by
  unfold ask asked
  simp only [Run.on_bind, client_on given reaches, Run.on_record, nextReply_on,
    World.modelReplies_keepModel]
  cases nextOf w.modelReplies <;> rfl

theorem calls_asked (system user key model : Text) (w : World) :
    (asked system user key model w).calls =
      w.calls ++ ((if w.modelClient = some key then [] else [.modelClient key]) ++
        [.generate model system user]) := by
  unfold asked
  rw [World.calls_keepModel, List.append_assoc]

theorem asked_adds (system user key model : Text) (w : World) :
    Adds Call.isConsulting w (asked system user key model w) := by
  refine ⟨_, calls_asked system user key model w, ?_, ?_⟩
  · change (w.keepModel key).host = _
    rw [World.host_keepModel]
    split <;> rfl
  intro call member
  rcases List.mem_append.mp member with made | question
  · split at made
    · cases made
    · cases List.mem_singleton.mp made
      rfl
  · cases List.mem_singleton.mp question
    rfl

theorem ask_keyless (system user model : Text) (w : World) :
    (ask system user [] model).on w = (.error (.refused .noModelKey), w) := rfl

theorem ask_unmade {message : Text} (given : key ≠ []) (another : w.modelClient ≠ some key)
    (why : w.unmakeable .languageModel key = some message) (system user model : Text) :
    (ask system user key model).on w = (.error (.outside message), w) := by
  unfold ask
  rw [Run.on_bind, client_unmade given another why]

-- A question is asked, or nothing happens at all.
theorem ask_moves {R : World → World → Prop} [IsPreorder World R] {system user model : Text}
    (asks : key ≠ [] → ∀ w, R w (asked system user key model w)) :
    Run.Moves R (ask system user key model) := by
  intro w
  by_cases given : key = []
  · rw [given, ask_keyless]
    exact refl_of R w
  · rcases w.reaches_or .languageModel key with reaches | ⟨another, message, why⟩
    · rw [ask_on given reaches]
      exact asks given w
    · rw [ask_unmade given another why]
      exact refl_of R w

end LanguageModel
end PatchReview
