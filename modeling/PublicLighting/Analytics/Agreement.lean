import Mathlib.Data.Int.Interval
import PublicLighting.Analytics.Reports
import PublicLighting.Exchange.Searching

/-! The two views of the reports agree. -/

namespace PublicLighting.Analytics

open Exchange (ExportRow FilterError ListReportAnalyticsQuery SearchText periodSeconds searchTerm textUnits)
open Foundations.Joins
open Foundations.Keyset (offsetPages_whole ordered ordered_perm)

section Summary

variable (db : Database) (bounds : Bounds)

def reportsIn : List HistoryRow := db.history.filter bounds.holds

def isKept (report : HistoryRow) : Bool := db.points.any fun point => report.lightPointId = some point.id

theorem points_unique (p : ExportRow → Bool) (report : HistoryRow)
    (same : ∀ point, p point = true → report.lightPointId = some point.id) : (db.points.filter p).length ≤ 1 := by
  refine @filter_key_le _ _ db.points (fun point => some point.id) p report.lightPointId ?_ fun point holds =>
    (same point holds).symm
  have named := db.distinct.map (Option.some_injective ℤ)
  rw [List.map_map] at named
  exact named

theorem summaryRows_eq : summaryRows db bounds =
    (joinRow db.history (fun bounds report => bounds.holds report) bounds).map
    fun joined => (joined, db.points.find? fun point =>
      joined.2.any fun report => isAssigned report && report.lightPointId = some point.id) := by
  have single : leftJoin [bounds] db.history (fun bounds report => bounds.holds report) =
      joinRow db.history (fun bounds report => bounds.holds report) bounds := by
    rw [leftJoin, List.flatMap_singleton]
  rw [summaryRows, single, leftJoin_unique]
  intro joined _
  cases joined.2 with
  | none =>
      simp only [Option.any_none, List.filter_false]
      exact Nat.zero_le 1
  | some report =>
      refine points_unique db _ report ?_
      intro point holds
      rw [Option.any_some, Bool.and_eq_true, decide_eq_true_eq] at holds
      exact holds.2

theorem summary_group : (groups (fun joined => joined.1.1) (summaryRows db bounds)).headD [] =
    summaryRows db bounds := by
  have single : groups (fun joined => joined.1.1) (summaryRows db bounds) = [summaryRows db bounds] := by
    rw [summaryRows_eq]
    apply @groups_single _ _ _ _ _ bounds
    · intro empty
      exact joinRow_given bounds (List.map_eq_nil_iff.mp empty)
    · intro joined member
      obtain ⟨pair, among, same⟩ := List.mem_map.mp member
      rw [← same]
      exact joinRow_fst among
  rw [single]
  rfl

theorem summary_count (p : HistoryRow → Bool) :
    ((summaryRows db bounds).countP fun joined => joined.1.2.any p) = (reportsIn db bounds).countP p := by
  rw [summaryRows_eq, List.countP_map]
  exact (countP_any _ p).trans (by rw [joinRow_matches]; rfl)

theorem summary_deleted :
    ((summaryRows db bounds).countP fun joined => joined.1.2.any isAssigned && joined.2.isNone) =
      (reportsIn db bounds).countP fun report => isAssigned report && !isKept db report := by
  rw [summaryRows_eq, List.countP_map]
  have looked : ∀ joined : Bounds × Option HistoryRow,
      (joined.2.any isAssigned && (db.points.find? fun point =>
          joined.2.any fun report => isAssigned report && report.lightPointId = some point.id).isNone) =
        joined.2.any fun report => isAssigned report && !isKept db report := by
    intro joined
    cases joined.2 with
    | none => rfl
    | some report =>
        cases assigned : isAssigned report with
        | false => simp only [Option.any_some, assigned, Bool.false_and]
        | true =>
            simp only [Option.any_some, assigned, Bool.true_and, isKept]
            rw [Bool.eq_iff_iff, Option.isNone_iff_eq_none, List.find?_eq_none, Bool.not_eq_true', List.any_eq_false]
  have counted := countP_any (joinRow db.history (fun bounds report => bounds.holds report) bounds)
    fun report => isAssigned report && !isKept db report
  rw [joinRow_matches] at counted
  rw [← reportsIn, ← counted] at *
  exact List.countP_congr fun joined _ => by
    rw [Function.comp_apply, looked]

end Summary

section Rows

variable (db : Database) (bounds : Bounds)

def isAbout (point : ExportRow) (report : HistoryRow) : Bool :=
  report.lightPointId = some point.id && isAssigned report && bounds.holds report

def rowOf (point : ExportRow) : CountRow where
  point := point
  reportCount := db.history.countP (isAbout bounds point)
  lastReport := ((db.history.filter (isAbout bounds point)).map (·.submittedAt)).max?

theorem countRows_perm : (countRows db bounds).Perm (db.points.map (rowOf db bounds)) := by
  have groups' := (@groups_leftJoin _ _ _ _ db.points db.history (isAbout bounds) ExportRow.id db.distinct).filterMap
    fun group => group.head?.map fun pair =>
      ({ point := pair.1
         reportCount := group.countP fun pair => pair.2.isSome
         lastReport := ((group.filterMap Prod.snd).map (·.submittedAt)).max? } : CountRow)
  refine groups'.trans (List.Perm.of_eq ?_)
  rw [List.filterMap_map]
  refine (List.filterMap_congr (g := some ∘ rowOf db bounds) fun point _ => ?_).trans
    (congrFun List.filterMap_eq_map _)
  rw [Function.comp_apply, joinRow_count, joinRow_matches]
  cases shape : joinRow db.history (isAbout bounds) point with
  | nil => exact absurd shape (joinRow_given point)
  | cons first rest =>
      have here : first.1 = point := by
        apply @joinRow_fst _ _ db.history (isAbout bounds)
        rw [shape]
        exact List.mem_cons_self
      rw [List.head?_cons, Option.map_some, here]
      rfl

theorem countRows_cast {row : CountRow} (member : row ∈ countRows db bounds) : row.reportCount ≤ 2147483647 := by
  obtain ⟨point, -, same⟩ := List.mem_map.mp ((countRows_perm db bounds).mem_iff.mp member)
  rw [← same]
  refine (List.countP_mono_left fun report _ about => ?_).trans (db.counted point.id)
  rw [isAbout, Bool.and_eq_true, Bool.and_eq_true] at about
  exact about.1.1

theorem countRows_ids : ((countRows db bounds).map fun row => row.point.id).Perm (db.points.map ExportRow.id) := by
  have mapped := (countRows_perm db bounds).map fun row => row.point.id
  rw [List.map_map] at mapped
  exact mapped

theorem countRows_keys (ascending : Bool) : ((countRows db bounds).map (sortKey ascending)).Nodup := by
  have ids := (countRows_ids db bounds).nodup_iff.mpr db.distinct
  have through : (countRows db bounds).map (fun row => row.point.id) =
      ((countRows db bounds).map (sortKey ascending)).map fun key => (ofLex (ofLex key).2).2 := by
    rw [List.map_map]
    rfl
  rw [through] at ids
  exact ids.of_map _

/-- The counts add up to the reports about points that are still there. -/
theorem countRows_sum : ((countRows db bounds).map (·.reportCount)).sum =
    (reportsIn db bounds).countP fun report => isAssigned report && isKept db report := by
  have counts := (countRows_perm db bounds).map (·.reportCount)
  rw [counts.sum_eq, List.map_map]
  have about : ∀ report ∈ db.history, (db.points.filter fun point => isAbout bounds point report).length ≤ 1 := by
    intro report _
    refine points_unique db _ report ?_
    intro point holds
    rw [isAbout, Bool.and_eq_true, Bool.and_eq_true, decide_eq_true_eq] at holds
    exact holds.1.1
  refine (sum_countP about).trans ?_
  rw [reportsIn, List.countP_filter]
  refine List.countP_congr fun report _ => ?_
  simp only [isAbout, isKept, List.any_eq_true, Bool.and_eq_true, decide_eq_true_eq]
  constructor
  · intro found
    obtain ⟨point, member, holds⟩ := found
    exact ⟨⟨holds.1.2, point, member, holds.1.1⟩, holds.2⟩
  · intro found
    obtain ⟨⟨assigned, point, member, same⟩, holds⟩ := found
    exact ⟨point, member, ⟨same, assigned⟩, holds⟩

/-- Points have ids that fit an integer, so there are not too many to number their pages. -/
theorem points_bounded : db.points.length ≤ 4294967296 := by
  have within : (db.points.map ExportRow.id).toFinset ⊆ Finset.Icc (-2147483648) 2147483647 := by
    intro id member
    obtain ⟨point, -, same⟩ := List.mem_map.mp (List.mem_toFinset.mp member)
    rw [← same, Finset.mem_Icc]
    exact point.idInteger
  have card := Finset.card_le_card within
  rw [List.toFinset_card_of_nodup db.distinct, List.length_map, Int.card_Icc] at card
  exact card

end Rows

section Pages

variable (texts : SearchText) (db : Database) (query : ListReportAnalyticsQuery) (limit : Option ℚ)
  (referenceTime : ℤ)

def listedRows (keeps : ExportRow → Bool) (seconds : Nat) : List CountRow :=
  ordered (sortKey (query.order = some (textUnits "asc")))
    ((countRows db (boundsOf seconds referenceTime)).filter fun row => keeps row.point)

theorem limitOf_pos : 1 ≤ limitOf limit := by
  rw [limitOf]
  have low : (1 : ℤ) ≤ min 100 (max 1 ((safeInteger limit).getD 25)) := le_min (by decide) (le_max_left _ _)
  omega

theorem pageOf_nat {number : Nat} (positive : 0 < number) (small : number ≤ 9007199254740991) :
    pageOf (some (number : ℚ)) = number := by
  have safe : safeInteger (some (number : ℚ)) = some (number : ℤ) := by
    have within : |(number : ℤ)| ≤ 9007199254740991 := by
      rw [Nat.abs_cast]
      omega
    rw [safeInteger, Option.bind_some, Rat.den_natCast, Rat.num_natCast, if_pos ⟨rfl, within⟩]
  have given : (0 : ℤ) < number := by omega
  rw [pageOf, safe]
  simp only [if_pos given, Int.toNat_natCast]

theorem pages_enough (total : Nat) (size : Nat) (positive : 1 ≤ size) :
    total ≤ max 1 ((total + (size - 1)) / size) * size := by
  have whole : total ≤ (total + (size - 1)) / size * size := by
    have split := Nat.div_add_mod (total + (size - 1)) size
    have rest := Nat.mod_lt (total + (size - 1)) positive
    rw [Nat.mul_comm] at split
    omega
  exact whole.trans (Nat.mul_le_mul_right size (le_max_right _ _))

theorem pages_few (total : Nat) (size : Nat) (positive : 1 ≤ size) :
    max 1 ((total + (size - 1)) / size) ≤ max 1 total := by
  apply max_le_max (Nat.le_refl 1)
  rw [Nat.div_le_iff_le_mul_add_pred positive]
  have grown := Nat.le_mul_of_pos_left total positive
  omega

variable {texts db query limit referenceTime}

theorem list_ok {keeps : ExportRow → Bool} {seconds : Nat}
    (checked : checkedQuery texts query = .ok (keeps, seconds))
    (page : Option ℚ) : listReportAnalytics texts db query page limit referenceTime = .ok
      ⟨(Foundations.Keyset.offsetPage (sortKey (query.order = some (textUnits "asc"))) (limitOf limit)
          ((pageOf page - 1) * limitOf limit)
          ((countRows db (boundsOf seconds referenceTime)).filter fun row => keeps row.point)).map itemOf,
        pageOf page, limitOf limit, ((countRows db (boundsOf seconds referenceTime)).filter fun row =>
          keeps row.point).length,
        max 1 ((((countRows db (boundsOf seconds referenceTime)).filter fun row => keeps row.point).length +
          (limitOf limit - 1)) / limitOf limit)⟩ := by
  rw [listReportAnalytics, checked]
  rfl

theorem mapM_ok {α β ε : Type} (f : α → β) (items : List α) :
    (items.mapM fun item => (Except.ok (f item) : Except ε β)) = .ok (items.map f) := List.mapM_pure

theorem allPages_ok {keeps : ExportRow → Bool} {seconds : Nat}
    (checked : checkedQuery texts query = .ok (keeps, seconds)) :
    allPages texts db query limit referenceTime = .ok
      ((listedRows db query referenceTime keeps seconds).map itemOf) := by
  rw [allPages, list_ok checked]
  simp only [list_ok checked]
  rw [listedRows]
  have few : ((countRows db (boundsOf seconds referenceTime)).filter fun row => keeps row.point).length ≤
    4294967296 := by
    have all := (countRows_perm db (boundsOf seconds referenceTime)).length_eq
    rw [List.length_map] at all
    exact (List.length_filter_le _ _).trans (all.trans_le (points_bounded db))
  have positive := limitOf_pos limit
  generalize ((countRows db (boundsOf seconds referenceTime)).filter fun row => keeps row.point) = filtered at *
  have bound := pages_few filtered.length _ positive
  have enough := pages_enough filtered.length _ positive
  rw [← @offsetPages_whole _ _ _ (sortKey (query.order = some (textUnits "asc"))) _ _ _ enough]
  generalize max 1 ((filtered.length + (limitOf limit - 1)) / limitOf limit) = count at *
  refine (congrArg (fun pages : Except AnalyticsError (List ReportPage) =>
    pages >>= fun pages => pure (pages.flatMap (·.items))) (mapM_ok _ _)).trans (congrArg Except.ok ?_)
  rw [List.flatMap_map, List.map_flatMap]
  refine List.flatMap_congr fun number member => ?_
  have within : number < count := List.mem_range.mp member
  have here := @pageOf_nat (number + 1) (Nat.succ_pos _) (by omega)
  rw [Nat.cast_succ] at here
  rw [here, Nat.add_sub_cancel]

theorem allPages_error {error : AnalyticsError} (checked : checkedQuery texts query = .error error) :
    allPages texts db query limit referenceTime = .error error := by
  rw [allPages, listReportAnalytics, checked]
  rfl

end Pages

section Agreement

variable {texts : SearchText} {db : Database} {period : String} {order : Option Exchange.Units} {referenceTime : ℤ}

theorem checkedQuery_all {seconds : Nat} (valid : periodSeconds period = some seconds)
    (ordered' : order.getD [] ∈ [[], textUnits "asc", textUnits "desc"]) :
    ∃ keeps, checkedQuery texts ⟨period, none, none, order⟩ = .ok (keeps, seconds) ∧ ∀ row, keeps row = true := by
  have search : searchTerm none = [] := rfl
  refine ⟨fun row => (decide (searchTerm none = []) || Exchange.searchCondition texts
    (searchTerm none) row) && true, ?_, ?_⟩
  · have given : (periodSeconds period).isNone = false := by rw [valid]; rfl
    have listed : Exchange.listReportAnalytics texts ⟨period, none, none, order⟩ = .ok
        fun row => (decide (searchTerm none = []) || Exchange.searchCondition texts
          (searchTerm none) row) && true := by
      rw [Exchange.listReportAnalytics]
      simp only [given, Exchange.statusCondition, ordered', not_true_eq_false]
      rfl
    rw [checkedQuery, listed, validatePeriod, valid]
    rfl
  · intro row
    rw [search]
    rfl

theorem checkedQuery_seconds {query : ListReportAnalyticsQuery} {checked : (ExportRow → Bool) × Nat}
    (passed : checkedQuery texts query = .ok checked) : periodSeconds query.period = some checked.2 := by
  rw [checkedQuery] at passed
  cases listed : Exchange.listReportAnalytics texts query with
  | error error =>
      rw [listed] at passed
      cases passed
  | ok keeps =>
      rw [listed, validatePeriod] at passed
      cases valid : periodSeconds query.period with
      | none =>
          rw [valid] at passed
          cases passed
      | some seconds =>
          rw [valid] at passed
          simp only [Except.mapError, bind, Except.bind] at passed
          split_ifs at passed
          cases passed
          rfl

/-- The list and the figures count the same reports, every point is listed once, and a search or
a status only leaves rows out. -/
theorem analytics_agree (texts : SearchText) (db : Database) (period : String) (order : Option Exchange.Units)
    (limit : Option ℚ) (referenceTime : ℤ) (valid : (periodSeconds period).isSome)
    (sorted : order.getD [] ∈ [[], textUnits "asc", textUnits "desc"]) :
    ∃ summary items, getReportAnalyticsSummary db period referenceTime = .ok summary ∧
      allPages texts db ⟨period, none, none, order⟩ limit referenceTime = .ok items ∧
      (items.map (·.reportCount)).sum + summary.reportsForDeletedPoints = summary.assignedToInventoryPoints ∧
      summary.totalLocalReports = summary.assignedToInventoryPoints + summary.customOrManualReports ∧
      (items.map (·.id)).Perm (db.points.map (·.id)) ∧
      ∀ search status filtered, allPages texts db ⟨period, search, status,
        order⟩ limit referenceTime = .ok filtered →
        filtered.Sublist items := by
  obtain ⟨seconds, same⟩ := Option.isSome_iff_exists.mp valid
  obtain ⟨keeps, checked, all⟩ := @checkedQuery_all texts period order seconds same sorted
  have whole : ((countRows db (boundsOf seconds referenceTime)).filter fun row => keeps row.point) =
      countRows db (boundsOf seconds referenceTime) := List.filter_eq_self.mpr fun row _ => all row.point
  have listed : (listedRows db ⟨period, none, none, order⟩ referenceTime keeps seconds).Perm
      (countRows db (boundsOf seconds referenceTime)) := by
    rw [listedRows, whole]
    exact ordered_perm
  have figures : getReportAnalyticsSummary db period referenceTime = .ok
      { period := period
        periodStart := Foundations.Instants.toISOString ((boundsOf seconds referenceTime).periodStart / 1000)
        periodEnd := Foundations.Instants.toISOString ((boundsOf seconds referenceTime).periodEnd / 1000)
        totalLocalReports := (reportsIn db (boundsOf seconds referenceTime)).length
        assignedToInventoryPoints := (reportsIn db (boundsOf seconds referenceTime)).countP isAssigned
        customOrManualReports := (reportsIn db (boundsOf seconds referenceTime)).countP fun report =>
          !isAssigned report
        reportsForDeletedPoints := (reportsIn db (boundsOf seconds referenceTime)).countP fun report =>
          isAssigned report && !isKept db report } := by
    have total := summary_count db (boundsOf seconds referenceTime) fun _ => true
    simp only [Option.any_true, List.countP_true] at total
    rw [getReportAnalyticsSummary, validatePeriod, same]
    simp only [bind, Except.bind, summary_group, summary_count, summary_deleted, total]
    rfl
  have total := @countP_split _ (reportsIn db (boundsOf seconds referenceTime)) (fun _ => true) isAssigned
  simp only [Bool.true_and, List.countP_true] at total
  refine ⟨_, _, figures, allPages_ok checked, ?_, total, ?_, ?_⟩
  · have counts := listed.map (·.reportCount)
    have split := @countP_split _ (reportsIn db (boundsOf seconds referenceTime)) isAssigned (isKept db)
    rw [List.map_map]
    have sum : ((listedRows db ⟨period, none, none, order⟩ referenceTime keeps seconds).map
        ((·.reportCount) ∘ itemOf)).sum = _ := counts.sum_eq.trans
          (countRows_sum db (boundsOf seconds referenceTime))
    rw [sum]
    exact split.symm
  · rw [List.map_map]
    exact (listed.map fun row => row.point.id).trans (countRows_ids db (boundsOf seconds referenceTime))
  · intro search status filtered pages
    cases other : checkedQuery texts ⟨period, search, status, order⟩ with
    | error error =>
        rw [allPages_error other] at pages
        cases pages
    | ok result =>
        obtain ⟨keeps', seconds'⟩ := result
        have again := checkedQuery_seconds other
        rw [same] at again
        cases again
        rw [allPages_ok other] at pages
        cases pages
        refine List.Sublist.map itemOf ?_
        rw [listedRows, listedRows, whole, Foundations.Keyset.ordered_filter _ (countRows_keys db _ _)]
        exact List.filter_sublist

theorem assigned_named (id : ℤ) : TargetKind.lightPoint = .lightPoint ↔ (some id).isSome :=
  ⟨fun _ => rfl, fun _ => rfl⟩

/-- One point with one report, and one report about a point that is gone. -/
def oneOfTwo : Database where
  points := [(Exchange.bareRow none nofun)]
  history := [⟨1, 0, .lightPoint, some 1, assigned_named 1⟩, ⟨2, 0, .lightPoint, some 9, assigned_named 9⟩]
  distinct := List.nodup_singleton _
  counted := fun _ => List.countP_le_length.trans (by decide)

theorem analytics_agree_day : ∃ summary items, getReportAnalyticsSummary oneOfTwo "24h" 1 = .ok summary ∧
    allPages Exchange.plainTexts oneOfTwo ⟨"24h", none, none, none⟩ none 1 = .ok items ∧
    (items.map (·.reportCount)).sum + summary.reportsForDeletedPoints = summary.assignedToInventoryPoints := by
  obtain ⟨summary, items, figures, pages, sum, -⟩ :=
    analytics_agree Exchange.plainTexts oneOfTwo "24h" none none 1 (by decide) (by decide)
  exact ⟨summary, items, figures, pages, sum⟩

end Agreement

end PublicLighting.Analytics
