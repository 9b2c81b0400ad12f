import PageRuntime.ActionBatch
import PageRuntime.Proofs.LikeCopies
import PageRuntime.Proofs.LikeWriting

/-! What actions read and make in runtimes that are alike: the value at a location, blobs and copies. A step
that comes to an end in one runtime does so in the other, with what is alike. -/
namespace PageRuntime

namespace Act.Follows
open PageRuntime.Runtime (Twin)

variable {α β : Type} {link : Link} {r other : Runtime} {rel : Link → α → β → Prop}

theorem ofYields (twin : r.Twin link other) {result : Except Fault α} {otherResult : Except Fault β}
    (yields : Yields (rel link) result otherResult) :
    Follows link r other rel (Act.ofExcept result) (Act.ofExcept otherResult) := by
  cases result with
  | error fault => exact fail fault _
  | ok x =>
    obtain ⟨y,rfl,related⟩ := yields x rfl
    exact pure twin related

theorem ofSame (twin : r.Twin link other) {result otherResult : Except Fault α}
    (yields : Yields Eq result otherResult) :
    Follows link r other (fun _ => Eq) (Act.ofExcept result) (Act.ofExcept otherResult) :=
  ofYields twin yields

end Act.Follows

theorem List.eraseIdx_alike {α β : Type} {rel : α → β → Prop} {xs : List α} {ys : List β}
    (alike : List.Forall₂ rel xs ys) (place : Nat) :
    List.Forall₂ rel (xs.eraseIdx place) (ys.eraseIdx place) := by
  induction alike generalizing place with
  | nil => exact .nil
  | cons one rest ih =>
    cases place with
    | zero => exact rest
    | succ place => exact .cons one (ih place)

open PageRuntime.Runtime (Twin Onward)
open PageRuntime.Act (Follows Matches)

variable {link : Link} {r other : Runtime}

theorem Spot.realize_matches (twin : r.Twin link other) {spot otherSpot : Spot}
    (alike : spot.Alike link otherSpot) :
    Matches link r other Value.Alike spot.realize otherSpot.realize := by
  cases alike with
  | value alike => exact .pure twin alike
  | bindings linked => exact .of_follows (.newContext twin linked) ⟨_,_,rfl⟩
  | items alike => exact .newList twin alike

namespace Reference
namespace Target

/-- The same location, seen from paired scopes. -/
inductive Alike (link : Link) : Target → Target → Prop
  | place {scope otherScope : Address} (linked : link .scope scope otherScope) (path : Path) :
      Alike link (.place scope path) (.place otherScope path)

variable {target otherTarget : Target} (alike : target.Alike link otherTarget)
  (twin : r.Twin link other)
include alike twin

theorem get_matches : Matches link r other Value.Alike target.get otherTarget.get := by
  cases alike with
  | place linked path =>
    refine .read (.bind (.ofExcept twin (twin.alike.readHandle (fun _ _ => twin.alike.resolve)
      (.path linked path false))) fun mid otherMid spot otherSpot onward met => ?_)
    exact Spot.realize_matches onward.twin met

end Target
end Reference

namespace Blob

variable (twin : r.Twin link other)
include twin

theorem octetsOf_yields {v w : Value} (same : v.Alike link w) :
    Yields Eq (octetsOf r.store v) (octetsOf other.store w) := by
  unfold octetsOf
  rw [twin.alike.store.isTrue same]
  split
  · exact .ok rfl
  · cases same with
    | str text => exact fun data ran => ⟨data,ran,rfl⟩
    | bytes data => exact fun data ran => ⟨data,ran,rfl⟩
    | _ => exact .error _ _

theorem make_follows {mediaType otherType base64 otherBase64 : Value}
    (sameType : mediaType.Alike link otherType) (sameData : base64.Alike link otherBase64) :
    Follows link r other Value.Alike (make mediaType base64) (make otherType otherBase64) := by
  refine .store (.bind (.ofSame twin (octetsOf_yields twin sameData)) ?_)
  rintro mid otherMid data _ onward rfl
  exact .newBlob onward.twin ⟨sameType.mono (link.le_extend _ _ _),rfl⟩

end Blob

namespace ActionBatch

theorem copyOf_follows (twin : r.Twin link other) {v w : Value} (same : v.Alike link w) :
    Follows link r other Value.Alike (copyOf v) (copyOf w) := by
  have run {r : Runtime} {v copied : Value} {s : Store} (copies : r.store.deepCopy v = .ok (copied,s)) :
      copyOf v r = (.done copied,{ r with store := s }) := by
    rw [copyOf,Step.bind_done (Act.store_run r),copies]
    rfl
  intro x after ran
  cases copies : r.store.deepCopy v with
  | error fault =>
    rw [copyOf,Step.bind_done (Act.store_run r),copies] at ran
    cases ran
  | ok result =>
    obtain ⟨copied,s⟩ := result
    obtain ⟨otherCopied,otherStore,otherCopies,gained,made⟩ :=
      Store.deepCopy_matches twin.alike.store same copied s copies
    rw [run copies] at ran
    cases ran
    exact ⟨otherCopied,_,run otherCopies,gained.onward twin,made⟩

end ActionBatch
end PageRuntime
