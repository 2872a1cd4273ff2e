import LoadChart.Notice
import Mathlib.Algebra.Order.Ring.Rat
import Mathlib.Data.List.Induction
import Mathlib.Data.List.TakeWhile

/-!
# The newest notices are shown

The record of a run keeps every notice that was ever pushed, the newest first, each with the time of
the first expiry after it.  As time goes on, notices are over in the order in which they were
pushed; so what is over and what is too much are both taken from the old end of the record.  Times
are those of an ordered group, in which differences are exact.
-/

namespace LoadChart

section Front

variable {α : Type} {test : α → Bool} {items : List α}

/-- Where the items that pass a test stand in front, filtering takes them from there. -/
theorem filter_eq_takeWhile_of_pairwise
    (inFront : items.Pairwise fun left right => test right = true → test left = true) :
    items.filter test = items.takeWhile test := by
  induction items with
  | nil => rfl
  | cons head tail induction =>
      obtain ⟨headFirst, tailInFront⟩ := List.pairwise_cons.1 inFront
      by_cases passes : test head = true
      · rw [List.filter_cons_of_pos passes, List.takeWhile_cons_of_pos passes, induction tailInFront]
      · rw [List.filter_cons_of_neg passes, List.takeWhile_cons_of_neg passes]
        exact List.filter_eq_nil_iff.2 fun item member later => passes (headFirst item member later)

theorem getElem?_takeWhile_of_pairwise
    (inFront : items.Pairwise fun left right => test right = true → test left = true)
    (index : Nat) : (items.takeWhile test)[index]? = items[index]?.filter test := by
  induction items generalizing index with
  | nil => rfl
  | cons head tail induction =>
      obtain ⟨headFirst, tailInFront⟩ := List.pairwise_cons.1 inFront
      by_cases passes : test head = true
      · rw [List.takeWhile_cons_of_pos passes]
        cases index with
        | zero => simp [Option.filter, passes]
        | succ index => exact induction tailInFront index
      · rw [List.takeWhile_cons_of_neg passes]
        cases index with
        | zero => simp [Option.filter, passes]
        | succ index =>
            cases found : tail[index]? with
            | none => simp [found]
            | some item =>
                have fails : ¬ test item = true := fun later =>
                  passes (headFirst item (List.mem_of_getElem? found) later)
                simp [found, Option.filter, fails]

end Front

namespace Notices

variable {τ : Type}

/-- One operation on the notices. -/
inductive Operation (τ : Type) where
  | info (text : String)
  | error (text : String)
  | expire (now : τ)

namespace Operation

def pushed? : Operation τ → Option (NoticeLevel × String)
  | .info text => some (.info, text)
  | .error text => some (.error, text)
  | .expire _ => none

def clock? : Operation τ → Option τ
  | .expire now => some now
  | _ => none

end Operation

def pushed (run : List (Operation τ)) : List (NoticeLevel × String) :=
  run.filterMap Operation.pushed?

def clocks (run : List (Operation τ)) : List τ := run.filterMap Operation.clock?

theorem clocks_concat (run : List (Operation τ)) (operation : Operation τ) :
    clocks (run ++ [operation]) = clocks run ++ operation.clock?.toList := by
  cases operation <;> simp [clocks, Operation.clock?]

theorem pushed_concat (run : List (Operation τ)) (operation : Operation τ) :
    pushed (run ++ [operation]) = pushed run ++ operation.pushed?.toList := by
  cases operation <;> simp [pushed, Operation.pushed?]

def content (notice : Notice τ) : NoticeLevel × String := (notice.level, notice.text)

def newest? (notices : Notices τ) (newer : Nat) : Option (Notice τ) := notices.items.reverse[newer]?

/-- A notice that was pushed, and whether its time is over. -/
structure Entry (τ : Type) where
  notice : Notice τ
  isOver : Bool

def Entry.ofContent (level : NoticeLevel) (text : String) : Entry τ := ⟨⟨level, text, none⟩, false⟩

theorem items_push_reverse {notices : Notices τ} (fits : notices.items.length ≤ capacity)
    (level : NoticeLevel) (text : String) :
    (notices.push level text).items.reverse =
      (⟨level, text, none⟩ :: notices.items.reverse).take capacity := by
  unfold push capacity at *
  dsimp only
  split
  next tooMany =>
    rw [List.reverse_drop, List.reverse_concat]
    rw [List.length_append, List.length_singleton] at tooMany ⊢
    congr 1
    omega
  next notTooMany =>
    rw [List.reverse_concat, List.take_of_length_le]
    simpa using notTooMany

/-- The newest notices of the record, as long as they are not over. -/
def current (record : List (Entry τ)) : List (Entry τ) :=
  (record.takeWhile (!·.isOver)).take capacity

theorem current_ofContent (level : NoticeLevel) (text : String) (record : List (Entry τ)) :
    current (.ofContent level text :: record) =
      (.ofContent level text :: current record).take capacity := by
  rw [current, current, List.takeWhile_cons_of_pos rfl]
  simp [capacity, List.take_take]

section Behind

variable [LE τ] {newer older : Entry τ}

/-- A newer entry is stamped no earlier than an older one, and not over before it. -/
structure Entry.Behind (newer older : Entry τ) : Prop where
  stamped : ∀ moment ∈ newer.notice.shownAt, ∃ first ∈ older.notice.shownAt, first ≤ moment
  ended : newer.isOver = true → older.isOver = true

theorem Entry.Behind.stays (behind : newer.Behind older) (stays : (!older.isOver) = true) :
    (!newer.isOver) = true := by
  simp only [Bool.not_eq_true', Bool.eq_false_iff] at stays ⊢
  exact fun ended => stays (behind.ended ended)

end Behind

variable [AddCommGroup τ] [LinearOrder τ] [OfNat τ 5]

def perform (notices : Notices τ) : Operation τ → Notices τ
  | .info text => notices.info text
  | .error text => notices.error text
  | .expire now => notices.expire now

def after (run : List (Operation τ)) : Notices τ := run.foldl perform empty

/-- Some time of a run is at least five seconds after the first one. -/
def Outlives (run : List (Operation τ)) : Prop :=
  ∃ first ∈ (clocks run).head?, ∃ now ∈ clocks run, 5 ≤ now - first

/-- A notice is stamped at the first expiry, and over at any that comes late enough. -/
def Entry.pass (now : τ) (entry : Entry τ) : Entry τ :=
  ⟨stamp now entry.notice, entry.isOver || !isFresh now (stamp now entry.notice)⟩

def note (record : List (Entry τ)) : Operation τ → List (Entry τ)
  | .info text => .ofContent .info text :: record
  | .error text => .ofContent .error text :: record
  | .expire now => record.map (.pass now)

/-- Every notice that was pushed in a run, the newest first. -/
def record (run : List (Operation τ)) : List (Entry τ) := run.foldl note []

variable {run : List (Operation τ)} {now : τ} {entry newer older : Entry τ}

@[simp] theorem after_concat (run : List (Operation τ)) (operation : Operation τ) :
    after (run ++ [operation]) = (after run).perform operation :=
  List.foldl_append

@[simp] theorem record_concat (run : List (Operation τ)) (operation : Operation τ) :
    record (run ++ [operation]) = note (record run) operation :=
  List.foldl_append

theorem isFresh_eq_false_iff {notice : Notice τ} :
    isFresh now notice = false ↔ ∃ moment ∈ notice.shownAt, 5 ≤ now - moment := by
  unfold isFresh lifetime
  cases notice.shownAt <;> simp

theorem Entry.pass_isOver :
    (entry.pass now).isOver = true ↔
      entry.isOver = true ∨ 5 ≤ now - entry.notice.shownAt.getD now := by
  rw [pass, Bool.or_eq_true, Bool.not_eq_true', isFresh_eq_false_iff]
  simp [stamp]

/-- The record holds what was pushed, the newest first. -/
theorem map_content_record (run : List (Operation τ)) :
    (record run).map (content ·.notice) = (pushed run).reverse := by
  induction run using List.reverseRecOn with
  | nil => rfl
  | append_singleton run operation induction =>
      rw [record_concat, pushed_concat, List.reverse_append, ← induction]
      cases operation with
      | info text | error text => rfl
      | expire now =>
          rw [note, List.map_map]
          rfl

theorem outlives_expire :
    Outlives (run ++ [.expire now]) ↔
      Outlives run ∨ 5 ≤ now - (clocks run).head?.getD now := by
  unfold Outlives
  rw [clocks_concat]
  cases clocks run with
  | nil => simp [Operation.clock?]
  | cons first rest => simp [Operation.clock?, or_and_right, exists_or, or_assoc]

/-- What was pushed before some operations stands in the record behind what was pushed in them, with
the first of their times as its stamp, and is over if some time of them is late enough. -/
theorem getElem?_record (front back : List (Operation τ)) (operation : Operation τ)
    {level : NoticeLevel} {text : String} (isPush : operation.pushed? = some (level, text)) :
    ∃ entry, (record (front ++ operation :: back))[(pushed back).length]? = some entry ∧
      entry.notice = ⟨level, text, (clocks back).head?⟩ ∧
      (entry.isOver = true ↔ Outlives back) := by
  -- by the last operation: a push moves the entry one place on, an expiry passes it
  induction back using List.reverseRecOn with
  | nil =>
      refine ⟨.ofContent level text, ?_, rfl, by simp [Entry.ofContent, Outlives, clocks]⟩
      rw [record_concat]
      cases operation <;> cases isPush <;> rfl
  | append_singleton back last induction =>
      obtain ⟨entry, found, sameNotice, overIff⟩ := induction
      rw [← List.cons_append, ← List.append_assoc, record_concat, clocks_concat, pushed_concat]
      cases last with
      | info more | error more =>
          refine ⟨entry, ?_, ?_, ?_⟩
          · simpa [note, Operation.pushed?] using found
          · simpa [Operation.clock?] using sameNotice
          · rw [overIff, Outlives, Outlives, clocks_concat]
            simp [Operation.clock?]
      | expire now =>
          refine ⟨entry.pass now, ?_, ?_, ?_⟩
          · simp [note, Operation.pushed?, found]
          · rw [Entry.pass, sameNotice]
            cases first : (clocks back).head? <;> simp [Operation.clock?, first, stamp]
          · rw [Entry.pass_isOver, outlives_expire, overIff, sameNotice]

theorem record_stamps {moment : τ} (member : entry ∈ record run)
    (stamped : entry.notice.shownAt = some moment) : moment ∈ clocks run := by
  induction run using List.reverseRecOn generalizing entry with
  | nil => cases member
  | append_singleton run operation induction =>
      rw [record_concat] at member
      rw [clocks_concat, List.mem_append]
      cases operation with
      | info text | error text =>
          rcases List.mem_cons.1 member with rfl | member
          · cases stamped
          · exact Or.inl (induction member stamped)
      | expire now =>
          obtain ⟨own, ownMember, rfl⟩ := List.mem_map.1 member
          cases ownStamped : own.notice.shownAt with
          | none =>
              simp [Entry.pass, stamp, ownStamped] at stamped
              exact Or.inr (by simp [Operation.clock?, stamped])
          | some first =>
              simp [Entry.pass, stamp, ownStamped] at stamped
              exact Or.inl (induction ownMember (ownStamped.trans (congrArg some stamped)))

theorem items_expire_reverse (notices : Notices τ) (now : τ) :
    (notices.expire now).items.reverse =
      (notices.items.reverse.map (stamp now)).filter (isFresh now) := by
  rw [expire, ← List.filter_reverse, List.map_reverse]

theorem current_map_pass {record : List (Entry τ)}
    (ordered : (record.map (Entry.pass now)).Pairwise Entry.Behind) :
    (((current record).map (·.notice)).map (stamp now)).filter (isFresh now) =
      (current (record.map (.pass now))).map (·.notice) := by
  let stays (entry : Entry τ) : Bool := !(entry.pass now).isOver
  have inFront : record.Pairwise fun left right => stays right = true → stays left = true :=
    (List.pairwise_map.1 ordered).imp fun behind => behind.stays
  have notOver : ∀ entry ∈ current record,
      isFresh now (stamp now entry.notice) = stays entry := by
    intro entry member
    have stillShown := List.mem_takeWhile_imp (List.mem_of_mem_take member)
    simp only [Bool.not_eq_true'] at stillShown
    simp [stays, Entry.pass, stillShown]
  have prefixOrdered : (current record).Pairwise fun left right =>
      stays right = true → stays left = true :=
    inFront.sublist ((List.take_sublist _ _).trans (List.takeWhile_sublist _))
  have stays_takeWhile : (current record).takeWhile stays = (record.takeWhile stays).take capacity := by
    rw [current, ← List.take_takeWhile, List.takeWhile_takeWhile]
    congr 2
    funext entry
    cases ended : entry.isOver <;> simp [stays, Entry.pass, ended]
  calc
    (((current record).map (·.notice)).map (stamp now)).filter (isFresh now)
      = ((current record).filter stays).map fun entry => (entry.pass now).notice := by
        rw [List.map_map, List.filter_map, ← List.filter_congr notOver]
        rfl
    _ = ((record.takeWhile stays).take capacity).map fun entry => (entry.pass now).notice := by
        rw [filter_eq_takeWhile_of_pairwise prefixOrdered, stays_takeWhile]
    _ = (current (record.map (.pass now))).map (·.notice) := by
        rw [current, List.takeWhile_map, ← List.map_take, List.map_map]
        rfl

variable [IsOrderedAddMonoid τ]

theorem Entry.Behind.pass (behind : newer.Behind older)
    (past : ∀ moment ∈ older.notice.shownAt, moment ≤ now) :
    (newer.pass now).Behind (older.pass now) := by
  have ordered : older.notice.shownAt.getD now ≤ newer.notice.shownAt.getD now := by
    cases stamped : newer.notice.shownAt with
    | none =>
        cases olderStamped : older.notice.shownAt with
        | none => exact le_rfl
        | some first => exact past first olderStamped
    | some moment =>
        obtain ⟨first, olderStamped, le⟩ := behind.stamped moment stamped
        rw [olderStamped]
        exact le
  constructor
  · intro moment isMoment
    cases isMoment
    exact ⟨_, rfl, ordered⟩
  · intro ended
    rw [pass_isOver] at ended ⊢
    rcases ended with ended | late
    · exact Or.inl (behind.ended ended)
    · exact Or.inr (late.trans (sub_le_sub_left ordered now))

theorem record_pairwise (forward : (clocks run).Pairwise (· ≤ ·)) :
    (record run).Pairwise Entry.Behind := by
  induction run using List.reverseRecOn with
  | nil => exact .nil
  | append_singleton run operation induction =>
      rw [clocks_concat, List.pairwise_append] at forward
      obtain ⟨forward, _, before⟩ := forward
      rw [record_concat]
      cases operation with
      | info text | error text =>
          refine List.pairwise_cons.2 ⟨fun older _ => ⟨?_, ?_⟩, induction forward⟩
          · intro moment isMoment
            cases isMoment
          · intro ended
            cases ended
      | expire now =>
          refine List.pairwise_map.2 ((induction forward).imp_of_mem ?_)
          intro newer older _ olderMember behind
          refine behind.pass fun moment stamped => ?_
          exact before moment (record_stamps olderMember stamped) now (by simp [Operation.clock?])

theorem items_reverse (forward : (clocks run).Pairwise (· ≤ ·)) :
    (after run).items.reverse = (current (record run)).map (·.notice) := by
  induction run using List.reverseRecOn with
  | nil => rfl
  | append_singleton run operation induction =>
      have ordered := record_pairwise forward
      rw [clocks_concat, List.pairwise_append] at forward
      have shown := induction forward.1
      rw [record_concat] at ordered ⊢
      rw [after_concat]
      cases operation with
      | info text | error text =>
          have fits : (after run).items.length ≤ capacity := by
            rw [← List.length_reverse, shown, List.length_map]
            exact List.length_take_le _ _
          refine (items_push_reverse fits _ text).trans ?_
          rw [shown, note, current_ofContent, List.map_take]
          rfl
      | expire now => rw [perform, items_expire_reverse, shown, current_map_pass ordered, note]

/-- The newest notices of a run, and only those, are shown, as long as their time is not over. -/
structure ShowsNewest (notices : Notices τ) (run : List (Operation τ)) : Prop where
  /-- What is shown was pushed last, in the order in which it was pushed. -/
  suffix : notices.items.map content <:+ pushed run
  fits : notices.items.length ≤ 5
  /-- A notice is missing exactly if five newer ones were pushed, or an expiry came five seconds
  after the first one that followed its push.  Otherwise it is shown, stamped with that first one.
  -/
  missing_iff : ∀ front operation back level text, run = front ++ operation :: back →
    operation.pushed? = some (level, text) →
    (notices.newest? (pushed back).length = none ↔ 5 ≤ (pushed back).length ∨ Outlives back) ∧
      ∀ notice ∈ notices.newest? (pushed back).length,
        notice = ⟨level, text, (clocks back).head?⟩
  /-- No notice is missing while an older one is shown. -/
  inOrder : ∀ front older between newer back, run = front ++ older :: (between ++ newer :: back) →
    older.pushed?.isSome → newer.pushed?.isSome → notices.newest? (pushed back).length = none →
    notices.newest? (pushed (between ++ newer :: back)).length = none

theorem newest?_after (forward : (clocks run).Pairwise (· ≤ ·)) {newer : Nat}
    (found : (record run)[newer]? = some entry) :
    (after run).newest? newer =
      if newer < 5 ∧ entry.isOver = false then some entry.notice else none := by
  have inFront : (record run).Pairwise fun left right =>
      (!right.isOver) = true → (!left.isOver) = true :=
    (record_pairwise forward).imp fun behind => behind.stays
  rw [newest?, items_reverse forward, List.getElem?_map, current, List.getElem?_take,
    getElem?_takeWhile_of_pairwise inFront, found]
  by_cases few : newer < 5 <;> cases ended : entry.isOver <;>
    simp [capacity, few, ended, Option.filter]

/-- Whatever was pushed and expired in a run with times that do not run backward, the newest notices
are shown. -/
theorem newest_are_shown (forward : (clocks run).Pairwise (· ≤ ·)) :
    (after run).ShowsNewest run where
  suffix := by
    have front : current (record run) <+: record run :=
      (List.take_prefix _ _).trans (List.takeWhile_prefix _)
    rw [← List.reverse_prefix, ← map_content_record, ← List.map_reverse, items_reverse forward,
      List.map_map]
    exact front.map _
  fits := by
    rw [← List.length_reverse, items_reverse forward, List.length_map]
    exact List.length_take_le _ _
  missing_iff := by
    rintro front operation back level text rfl isPush
    obtain ⟨entry, found, sameNotice, overIff⟩ := getElem?_record front back operation isPush
    rw [newest?_after forward found, ← overIff, sameNotice]
    by_cases few : (pushed back).length < 5
    · cases ended : entry.isOver <;> simp [few, Nat.not_le.2 few]
    · simp [few, Nat.le_of_not_lt few]
  inOrder := by
    rintro front older between newer back rfl _ _ missing
    rw [newest?, List.getElem?_eq_none_iff] at missing ⊢
    have more : (pushed back).length ≤ (pushed (between ++ newer :: back)).length := by
      have tail : back <:+ between ++ newer :: back := ⟨between ++ [newer], by simp⟩
      exact (tail.filterMap _).length_le
    exact missing.trans more

/-- An error, drawn after ten seconds, and a message that is first drawn four seconds later; then
half past the fifteenth second. -/
def sampleRun : List (Operation ℚ) :=
  [.error "Delete failed", .expire 10, .info "Exported", .expire 14, .expire (31 / 2)]

/-- The error is missing then, and the message is still shown. -/
theorem newest_are_shown_after_expiry :
    (after sampleRun).newest? 1 = none ∧
      (after sampleRun).newest? 0 = some ⟨.info, "Exported", some 14⟩ := by
  have forward : (clocks sampleRun).Pairwise (· ≤ ·) := by
    have times : clocks sampleRun = [10, 14, 31 / 2] := rfl
    rw [times]
    decide +kernel
  have missing := (newest_are_shown forward).missing_iff
  obtain ⟨error, _⟩ := missing [] (.error "Delete failed")
    [.expire 10, .info "Exported", .expire 14, .expire (31 / 2)] .error "Delete failed" rfl rfl
  obtain ⟨message, shown⟩ := missing [.error "Delete failed", .expire 10] (.info "Exported")
    [.expire 14, .expire (31 / 2)] .info "Exported" rfl rfl
  have outlived : Outlives [.expire (10 : ℚ), .info "Exported", .expire 14, .expire (31 / 2)] :=
    ⟨10, rfl, 31 / 2, by simp [clocks, Operation.clock?], by decide +kernel⟩
  have lasting : ¬ Outlives [.expire (14 : ℚ), .expire (31 / 2)] := by
    rintro ⟨first, isFirst, now, isNow, late⟩
    cases isFirst
    have times : now = 14 ∨ now = 31 / 2 := by simpa [clocks, Operation.clock?] using isNow
    rcases times with rfl | rfl <;> exact absurd late (by decide +kernel)
  refine ⟨error.2 (Or.inr outlived), ?_⟩
  cases held : (after sampleRun).newest? 0 with
  | none =>
      rcases message.1 held with five | outlives
      · exact absurd five (by decide)
      · exact absurd outlives lasting
  | some notice => exact congrArg some (shown notice held)

end Notices

end LoadChart
