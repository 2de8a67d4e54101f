import Forecast.Proofs.Series.Sound

/-!
# Values of one sort

Widths of ensembles are compared with that of the first event, if this is an ensemble.  In a type of
which either every value is an ensemble or none is, the ensembles of a sound issuance therefore
agree in width whichever of its events come first, and building accepts the issuance again.  Where
values of both sorts are mixed, it may be refused once its first events are left out.
-/

namespace Forecast

/-- Either every value is an ensemble or none is. -/
def Sample.OfOneSort (α : Type) [Sample α] : Prop :=
  ∀ left right : α, (Sample.memberCount left).isSome = (Sample.memberCount right).isSome

/-- Numbers and pairs are no ensembles, and ensembles are. -/
theorem Sample.ofOneSort :
    OfOneSort Binary64 ∧ OfOneSort SinglePair ∧ OfOneSort EnsemblePair :=
  ⟨fun _ _ => rfl, fun _ _ => rfl, fun _ _ => rfl⟩

namespace Issuance

variable {α : Type} [Sample α] {issuance : Issuance α}

/-- Where values are of one sort, the events of a sound issuance have equally many members. -/
theorem Sound.memberCount_eq (sound : issuance.Sound) (sort : Sample.OfOneSort α)
    {first second : Event α} (inFirst : first ∈ issuance.events)
    (inSecond : second ∈ issuance.events) :
    Sample.memberCount first.value = Sample.memberCount second.value := by
  cases count : Sample.memberCount first.value with
  | none =>
    have none := sort first.value second.value
    rw [count, Option.isSome_none, eq_comm, Option.isSome_eq_false_iff,
      Option.isNone_iff_eq_none] at none
    exact none.symm
  | some members =>
    have ensembles (value : α) : (Sample.memberCount value).isSome := by
      rw [sort value first.value, count, Option.isSome_some]
    obtain ⟨others, has⟩ := Option.isSome_iff_exists.mp (ensembles second.value)
    have same := sound.uniform ensembles first inFirst second inSecond
    rw [widthOf, widthOf, count, has, Option.getD_some, Option.getD_some] at same
    rw [has, same]

theorem Sound.widthsAgree (sound : issuance.Sound) (sort : Sample.OfOneSort α) :
    WidthsAgree issuance.events := by
  intro first isFirst width hasWidth event member
  have inFirst : first ∈ issuance.events := List.mem_of_head? isFirst
  rw [widthOf, sound.memberCount_eq sort member inFirst, hasWidth, Option.getD_some]

/-- Building accepts a sound issuance unless widths differ. -/
theorem Sound.valid_iff (sound : issuance.Sound) :
    issuance.Valid ↔ WidthsAgree issuance.events :=
  ⟨Valid.widths, fun widths => ⟨sound.nonempty, sound.ascending, widths⟩⟩

/-- It is refused for the widths only. -/
theorem Sound.exists_of_fault (sound : issuance.Sound) {cause : DataError}
    (fault : issuance.Fault cause) :
    ¬WidthsAgree issuance.events
      ∧ ∃ expected actual, cause = .ensembleWidthMismatch issuance.basis expected actual := by
  cases fault with
  | noEvents missing => exact absurd missing sound.nonempty
  | @unordered before after earlier later split ascending descends =>
    have events := sound.ascending
    rw [split, Ascending, List.pairwise_append, List.pairwise_cons] at events
    exact absurd (events.2.1.1 later List.mem_cons_self) (Instant.not_lt.mpr descends)
  | @otherWidth before after first event width ascending isFirst hasWidth split agree differs =>
    refine ⟨fun widths => differs ?_, width, _, rfl⟩
    exact widths first isFirst width hasWidth event (split ▸ by simp)

end Issuance

/-! ## Values of two sorts -/

/-- A value that may be an ensemble of some width, and need not be one. -/
structure MixedValue where
  /-- Number of members. -/
  width : Option Nat
deriving DecidableEq

instance : Sample MixedValue where
  memberCount value := value.width
  same left right := left == right
  text value := value.width.elim "single" fun width => "ensemble of " ++ toString width

/-- Two ensembles of different widths behind a value that is none, so that nothing is compared. -/
def Issuance.mixed : Issuance MixedValue :=
  ⟨.ofNanoseconds 0, [⟨.ofNanoseconds 1, ⟨none⟩⟩, ⟨.ofNanoseconds 2, ⟨some 3⟩⟩,
    ⟨.ofNanoseconds 3, ⟨some 2⟩⟩]⟩

end Forecast
