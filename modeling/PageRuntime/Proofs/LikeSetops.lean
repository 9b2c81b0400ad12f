import PageRuntime.Proofs.LikeActions

/-! What actions write in runtimes that are alike: deletions, set operations, blobs that are extended, and
what is captured. An action that comes to an end in one runtime does so in the other, with what is alike. -/
namespace PageRuntime
open PageRuntime.Runtime (Twin Onward)
open PageRuntime.Act (Follows Ensues)

/-- Both steps end without a value or both fail with one fault. -/
abbrev Act.EndsAlike (link : Link) (r other : Runtime) (act otherAct : Act Unit) : Prop :=
  Act.Matches link r other (fun _ _ _ => True) act otherAct

/-- If one step ends without a value, so does the other. -/
abbrev Act.Completes (link : Link) (r other : Runtime) (act otherAct : Act Unit) : Prop :=
  Act.Follows link r other (fun _ _ _ => True) act otherAct

open PageRuntime.Act (EndsAlike Completes)

variable {link : Link} {r other : Runtime}

namespace Reference

theorem update_endsAlike (twin : r.Twin link other) {change otherChange : Store → Store} {shelf : Shelf}
    {a b : Address} {o p : Object} (linked : link shelf a b)
    (puts : r.store.Puts (change r.store) shelf a o)
    (otherPuts : other.store.Puts (otherChange other.store) shelf b p)
    (notScope : Shelf.scope ≠ shelf) (new : o.Alike link p) :
    EndsAlike link r other (Act.update change) (Act.update otherChange) :=
  (Ensues.update twin linked puts otherPuts notScope fun _ : True => new).matched trivial

theorem erase_endsAlike (twin : r.Twin link other) {scope otherScope : Address}
    (linked : link .scope scope otherScope) (name : String) :
    EndsAlike link r other (Context.erase scope (.text name)) (Context.erase otherScope (.text name)) := by
  have specials := (twin.alike.store.scopeAt linked).specials
  exact update_endsAlike twin specials (r.store.putDict_puts _ _) (other.store.putDict_puts _ _) nofun
    (.entries (Dict.erase_alike twin.alike.store.paired (twin.alike.store.dictAt specials)
      (Key.text_alike _ _)))

theorem dropMember_endsAlike (twin : r.Twin link other) {container otherContainer : Spot}
    (into : container.Alike link otherContainer) (key : Segment) :
    EndsAlike link r other (dropMember container key) (dropMember otherContainer key) := by
  have store := twin.alike.store
  unfold dropMember
  refine .store ?_
  cases into with
  | bindings linked => exact erase_endsAlike twin linked _
  | items values => exact .pure twin trivial
  | value into =>
    cases into with
    | context linked => exact erase_endsAlike twin (store.contextAt linked) _
    | dict linked =>
      exact update_endsAlike twin linked (r.store.putDict_puts _ _) (other.store.putDict_puts _ _) nofun
        (.entries (Dict.erase_alike store.paired (store.dictAt linked) (key.key_alike link)))
    | list linked =>
      have held := store.listAt linked
      cases key with
      | field name => exact .pure twin trivial
      | index place =>
        dsimp only
        rw [← held.length_eq]
        split
        · exact update_endsAlike twin linked (r.store.putList_puts _ _) (other.store.putList_puts _ _)
            nofun (.items (List.eraseIdx_alike held _))
        · exact .pure twin trivial
    | _ => exact .pure twin trivial

variable {scope otherScope : Address}

theorem deleteLast_endsAlike (twin : r.Twin link other) (linked : link .scope scope otherScope)
    (path : Path) (last : Segment) :
    EndsAlike link r other (deleteLast scope path last) (deleteLast otherScope path last) := by
  refine .bind (root_matches twin linked path) fun mid otherMid start otherStart onward met => ?_
  have alike := onward.twin.alike
  refine .read (.bind (.ofExcept onward.twin (met.walk (fun _ _ => alike.resolve) alike.store _)) ?_)
  intro mid' otherMid' found otherFound further met
  refine .bind (settle_matches further.twin met) fun _ _ _ _ later met => ?_
  exact dropMember_endsAlike later.twin met last

theorem deletePath_endsAlike (twin : r.Twin link other) (linked : link .scope scope otherScope)
    (path : Path) (locked : Bool) :
    EndsAlike link r other (deletePath scope path locked) (deletePath otherScope path locked) := by
  refine .bind (isLocked_matches twin path locked) fun mid otherMid shut _ onward same => ?_
  obtain rfl := same
  split
  · exact .pure onward.twin trivial
  · split
    · exact deleteLast_endsAlike onward.twin (link.le_extend _ _ _ _ _ _ linked) path _
    · exact .pure onward.twin trivial

namespace Target

theorem Alike.mono {more : Link} (le : link.Le more) {target otherTarget : Target}
    (alike : target.Alike link otherTarget) : target.Alike more otherTarget := by
  cases alike with
  | place linked path => exact .place (le _ _ _ linked) path

variable {target otherTarget : Target} (alike : target.Alike link otherTarget)
  (twin : r.Twin link other)
include alike

theorem Alike.name (s t : Store) : otherTarget.name t = target.name s := by
  cases alike with
  | place linked path => rfl

include twin

theorem set_endsAlike {v w : Value} (same : v.Alike link w) :
    EndsAlike link r other (target.set v) (otherTarget.set w) := by
  cases alike with
  | place linked path =>
    have depth : Reference.depth other.store = Reference.depth r.store :=
      congrArg (fun size => 4 * size + 8) twin.handles.symm
    refine .store ?_
    rw [depth]
    exact (setPathValue_ensues (setWithin_writes _) twin (fun _ : True => same) linked path
      false).matched trivial

theorem delete_endsAlike : EndsAlike link r other target.delete otherTarget.delete := by
  cases alike with
  | place linked path => exact deletePath_endsAlike twin linked path false

end Target
end Reference

namespace Setop
open PageRuntime.Reference (Target)

variable {target otherTarget : Target} (alike : target.Alike link otherTarget)
  (twin : r.Twin link other) {v w : Value} (same : v.Alike link w)
include alike twin same

theorem addItem_endsAlike (setop : Setop) :
    EndsAlike link r other (addItem target setop v) (addItem otherTarget setop w) := by
  have stores {mid otherMid : Runtime} (onward : Onward link r other mid otherMid)
      {items others : List Value}
      (held : Values.Alike (link.extend r.store other.store mid.store) items others) :
      EndsAlike (link.extend r.store other.store mid.store) mid otherMid
        (do let made ← Act.make (·.newList items); target.set made)
        (do let made ← Act.make (·.newList others); otherTarget.set made) := by
    refine .bind (.newList onward.twin held) fun last otherLast made otherMade further met => ?_
    have le := (link.le_extend r.store other.store mid.store).trans
      (Link.le_extend _ mid.store otherMid.store last.store)
    exact Target.set_endsAlike (alike.mono le) further.twin met
  refine .bind (Target.get_matches alike twin) fun mid otherMid current otherCurrent onward met => ?_
  have same := same.mono (link.le_extend r.store other.store mid.store)
  have store := onward.twin.alike.store
  have added {items others : List Value}
      (held : Values.Alike (link.extend r.store other.store mid.store) items others) :
      Values.Alike (link.extend r.store other.store mid.store)
        (if setop == .append then items ++ [v] else v :: items)
        (if setop == .append then others ++ [w] else w :: others) := by
    split
    · exact List.rel_append held (.cons same .nil)
    · exact .cons same held
  have fails : EndsAlike (link.extend r.store other.store mid.store) mid otherMid
      (Act.fail (.write (.notSequence setop.name (mid.store.typeName current) (target.name mid.store))))
      (Act.fail (.write (.notSequence setop.name (otherMid.store.typeName otherCurrent)
        (otherTarget.name otherMid.store)))) := by
    rw [store.typeName met,alike.name]
    exact .fail onward.twin _
  refine .store ?_
  cases met with
  | null => exact stores onward (.cons same .nil)
  | list linked => exact stores onward (added (store.listAt linked))
  | tuple linked => exact stores onward (added (store.tupleAt linked))
  | _ => exact fails

theorem mergeEntries_endsAlike :
    EndsAlike link r other (mergeEntries target v) (mergeEntries otherTarget w) := by
  refine .bind (Target.get_matches alike twin) fun mid otherMid current otherCurrent onward met => ?_
  have le := link.le_extend r.store other.store mid.store
  have same := same.mono le
  have alike := alike.mono le
  have store := onward.twin.alike.store
  have merges {present otherPresent added otherAdded : Dict}
      (held : present.Alike (link.extend r.store other.store mid.store) otherPresent)
      (more : added.Alike (link.extend r.store other.store mid.store) otherAdded) :
      EndsAlike (link.extend r.store other.store mid.store) mid otherMid
        (do let made ← Act.make (·.newDict (Dict.update present added)); target.set made)
        (do let made ← Act.make (·.newDict (Dict.update otherPresent otherAdded))
            otherTarget.set made) := by
    refine .bind (.newDict onward.twin (Dict.update_alike store.paired held more)) ?_
    intro last otherLast made otherMade further met
    exact Target.set_endsAlike (alike.mono (Link.le_extend _ _ _ _)) further.twin met
  have fails : EndsAlike (link.extend r.store other.store mid.store) mid otherMid
      (Act.fail (.write (.notMapping (mid.store.typeName current) (target.name mid.store))))
      (Act.fail (.write (.notMapping (otherMid.store.typeName otherCurrent)
        (otherTarget.name otherMid.store)))) := by
    rw [store.typeName met,alike.name]
    exact .fail onward.twin _
  have added := store.mapping? same
  refine .store ?_
  revert added
  generalize mid.store.mapping? v = entries
  generalize otherMid.store.mapping? w = otherEntries
  intro added
  cases met with
  | null => exact Target.set_endsAlike alike onward.twin same
  | dict linked =>
    cases added with
    | none => exact fails
    | some added => exact merges (store.dictAt linked) added
  | frozen linked =>
    cases added with
    | none => exact fails
    | some added => exact merges (store.frozenAt linked) added
  | _ => cases added <;> exact fails

theorem apply_endsAlike (setop : Setop) :
    EndsAlike link r other (setop.apply target v) (setop.apply otherTarget w) := by
  cases setop with
  | set => exact Target.set_endsAlike alike twin same
  | setUnless =>
    refine .bind (Target.get_matches alike twin) fun mid otherMid current otherCurrent onward met => ?_
    have le := link.le_extend r.store other.store mid.store
    rw [met.beq_scalar rfl]
    split
    · exact Target.set_endsAlike (alike.mono le) onward.twin (same.mono le)
    · exact .pure onward.twin trivial
  | append => exact addItem_endsAlike alike twin same .append
  | prepend => exact addItem_endsAlike alike twin same .prepend
  | merge => exact mergeEntries_endsAlike alike twin same
  | delete => exact Target.delete_endsAlike alike twin

theorem applyNamed_completes {setop otherSetop : Value} (named : setop.Alike link otherSetop) :
    Completes link r other (applyNamed setop target v) (applyNamed otherSetop otherTarget w) := by
  unfold applyNamed
  cases named with
  | str name =>
    dsimp only
    cases ofName? name with
    | none => exact .store (.fail _ _)
    | some known => exact (apply_endsAlike alike twin same known).follows
  | _ => exact .store (.fail _ _)

end Setop

namespace Blob

variable (twin : r.Twin link other)
include twin

theorem extend_completes {a b : Address} (linked : link .blob a b) {base64 otherBase64 : Value}
    (same : base64.Alike link otherBase64) :
    Completes link r other (extend a base64) (extend b otherBase64) := by
  refine .store (.bind (.ofSame twin (octetsOf_yields twin same)) ?_)
  rintro mid otherMid data _ onward rfl
  have wider := link.le_extend r.store other.store mid.store _ _ _ linked
  have held := onward.twin.alike.store.blobAt wider
  refine Act.Matches.follows ?_
  exact Reference.update_endsAlike onward.twin wider (mid.store.putBlob_puts _ _)
    (otherMid.store.putBlob_puts _ _) nofun (.blob ⟨held.mediaType,by rw [held.data]⟩)

end Blob

namespace ActionBatch
open PageRuntime.Reference (Target)

variable {action otherAction : Action} (same : action.Alike link otherAction)
  (twin : r.Twin link other)
include same twin

theorem capture_follows {v w : Value} (alike : v.Alike link w) :
    Follows link r other Value.Alike (capture action v) (capture otherAction w) := by
  unfold capture
  rw [same.kind]
  cases action.kind with
  | setData => exact .pure twin same.data
  | blob => exact Blob.make_follows twin same.mediaType same.base64
  | extendBlob =>
    cases alike with
    | blob linked =>
      refine .bind (Blob.extend_completes twin linked same.base64) fun mid otherMid _ _ onward _ => ?_
      exact .pure onward.twin (.blob (link.le_extend _ _ _ _ _ _ linked))
    | _ => exact .fail _ _
  | invalidate => exact .pure twin alike
  | html => exact .pure twin alike

variable {scope otherScope : Address} (linked : link .scope scope otherScope)
include linked

theorem target_follows :
    Follows link r other Target.Alike (target scope action) (target otherScope otherAction) := by
  unfold target
  rw [same.selector]
  refine .bind (.ofSame twin fun path ran => ⟨path,ran,rfl⟩) ?_
  rintro mid otherMid path _ onward rfl
  exact .pure onward.twin (.place (link.le_extend _ _ _ _ _ _ linked) path)

theorem applyData_completes :
    Completes link r other (applyData scope action) (applyData otherScope otherAction) := by
  refine .bind (target_follows same twin linked) fun mid otherMid place otherPlace onward there => ?_
  have le := link.le_extend r.store other.store mid.store
  refine .bind (copyOf_follows onward.twin (same.data.mono le)) ?_
  intro last otherLast data otherData further copied
  have wider := Link.le_extend (link.extend r.store other.store mid.store) mid.store otherMid.store
    last.store
  exact Setop.applyNamed_completes (there.mono wider) further.twin copied
    (same.setop.mono (le.trans wider))

theorem applyBlob_completes :
    Completes link r other (applyBlob scope action) (applyBlob otherScope otherAction) := by
  refine .bind (target_follows same twin linked) fun mid otherMid place otherPlace onward there => ?_
  have le := link.le_extend r.store other.store mid.store
  refine .bind (Blob.make_follows onward.twin (same.mediaType.mono le) (same.base64.mono le)) ?_
  intro last otherLast blob otherBlob further made
  exact (Target.set_endsAlike (there.mono (Link.le_extend _ _ _ _)) further.twin made).follows

theorem extendBlob_completes :
    Completes link r other (extendBlob scope action) (extendBlob otherScope otherAction) := by
  refine .bind (target_follows same twin linked) fun mid otherMid place otherPlace onward there => ?_
  have le := link.le_extend r.store other.store mid.store
  refine .bind (Target.get_matches there onward.twin).follows fun last otherLast found otherFound further met => ?_
  have wider := Link.le_extend (link.extend r.store other.store mid.store) mid.store otherMid.store
    last.store
  cases met with
  | blob linked =>
    exact Blob.extend_completes further.twin linked (same.base64.mono (le.trans wider))
  | _ => exact .fail _ _

end ActionBatch
end PageRuntime
