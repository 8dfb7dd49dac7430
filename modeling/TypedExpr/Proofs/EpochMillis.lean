import TypedExpr.Proofs.InstantOrder
import TypedExpr.Proofs.PathSplit

/-!
# Instants kept as milliseconds

A model may keep an instant as the number of milliseconds since the start of 1970. Such integers are
instants under another name: each comes back from the instant that it is read as, and they are ordered
alike. The other way round an instant outside of a leap second loses what it has beyond a whole
millisecond, toward the past on either side of 1970. So an expression that ends in such an attribute
shows the integer that is kept in the model's form, and is compared as that integer.
-/

namespace TypedExpr

open Calendar

namespace Instant

/-! ## Milliseconds -/

/-- Count and nanoseconds are quotient and remainder of the milliseconds. -/
theorem ofEpochMillis?_eq_some_iff {millis : Int} {t : Instant} :
    ofEpochMillis? millis = some t ↔
      t.totalSeconds = millis / 1000 + epochDay * secondsPerDay ∧
        t.nanosecond = (millis % 1000).toNat * 1000000 :=
  ofSeconds?_eq_some_iff

theorem epochMillis_of_ofEpochMillis? {millis : Int} {t : Instant}
    (h : ofEpochMillis? millis = some t) : t.epochMillis = millis := by
  obtain ⟨hseconds, hnanos⟩ := ofEpochMillis?_eq_some_iff.mp h
  unfold epochMillis
  rw [hseconds, hnanos]
  omega

/-- Milliseconds stand on the line in their own order. -/
theorem place_lt_iff_of_ofEpochMillis? {n m : Int} {s t : Instant}
    (hs : ofEpochMillis? n = some s) (ht : ofEpochMillis? m = some t) :
    s.place < t.place ↔ n < m := by
  obtain ⟨hseconds, hnanos⟩ := ofEpochMillis?_eq_some_iff.mp hs
  obtain ⟨hseconds', hnanos'⟩ := ofEpochMillis?_eq_some_iff.mp ht
  unfold place nanosPerSecond secondsPerDay epochDay at *
  omega

theorem compare_of_ofEpochMillis? {n m : Int} {s t : Instant} (hs : ofEpochMillis? n = some s)
    (ht : ofEpochMillis? m = some t) : s.compare t = Ord.compare n m := by
  have hlt := place_lt_iff_of_ofEpochMillis? hs ht
  have hgt := place_lt_iff_of_ofEpochMillis? ht hs
  rw [compare_eq_compare_place]
  rcases Int.lt_trichotomy n m with h | h | h
  · rw [Int.compare_eq_lt.mpr h, Int.compare_eq_lt.mpr (hlt.mpr h)]
  · rw [Int.compare_eq_eq.mpr h, Int.compare_eq_eq]
    omega
  · rw [Int.compare_eq_gt.mpr h, Int.compare_eq_gt.mpr (hgt.mpr h)]

/-- The calendar has far fewer milliseconds than 64 bits have numbers. -/
theorem epochMillis_bounds (t : Instant) : -2 ^ 63 ≤ t.epochMillis ∧ t.epochMillis < 2 ^ 63 := by
  have hfirst := t.date.firstDay_le
  have hlast := t.date.le_lastDay
  have hsecond := t.second_lt
  have hnanos := t.nanosecond_lt
  rw [show firstDay = -95746130 by decide] at hfirst
  rw [show lastDay = 95745398 by decide] at hlast
  unfold epochMillis totalSeconds epochDay secondsPerDay nanosPerSecond at *
  omega

/-! ## Whole milliseconds -/

def IsWholeMillis (t : Instant) : Prop := t.nanosecond % 1000000 = 0

/-- The instant without what it has beyond a whole millisecond. -/
def floorMillis (t : Instant) : Instant :=
  { t with
    nanosecond := t.nanosecond / 1000000 * 1000000
    nanosecond_lt := Nat.lt_of_le_of_lt (Nat.div_mul_le_self _ _) t.nanosecond_lt }

/-- Nanoseconds count on from their second, before 1970 too, so cutting them off leads to the past. -/
theorem isLatest_floorMillis (t : Instant) : IsLatest IsWholeMillis t t.floorMillis where
  holds := Nat.mul_mod_left _ _
  not_after := by
    rw [isLE_compare_iff]
    show t.totalSeconds * _ + (t.nanosecond / 1000000 * 1000000 : Nat) ≤ t.place
    unfold place
    omega
  not_before {s} hs hst := by
    have hnanos := s.nanosecond_lt
    rw [isLE_compare_iff] at hst ⊢
    show s.place ≤ t.totalSeconds * _ + (t.nanosecond / 1000000 * 1000000 : Nat)
    unfold IsWholeMillis place nanosPerSecond at *
    omega

/-- Outside of a leap second the milliseconds of an instant are read as its whole milliseconds. -/
theorem ofEpochMillis?_epochMillis {t : Instant} (h : t.isLeapSecond = false) :
    ofEpochMillis? t.epochMillis = some t.floorMillis := by
  have hnanos : t.nanosecond < nanosPerSecond := by
    simpa [isLeapSecond] using h
  rw [ofEpochMillis?_eq_some_iff]
  show t.totalSeconds = _ ∧ t.nanosecond / 1000000 * 1000000 = _
  unfold epochMillis nanosPerSecond at *
  omega

end Instant

/-! ## The adapter -/

namespace Adapter

theorem ofMillis_integer_eq_ok_iff {millis : Int64} {type : TypeDecl} {v : Value} :
    ofMillis (.integer millis) type = .ok v ↔
      ∃ t, Instant.ofEpochMillis? millis.toInt = some t ∧ v = .instant t := by
  simp only [ofMillis]
  cases Instant.ofEpochMillis? millis.toInt with
  | none => simp
  | some t => simp [eq_comm]

/-- An instant that was read from an integer is kept as that integer. -/
theorem toMillis_of_ofEpochMillis? {millis : Int64} {t : Instant}
    (h : Instant.ofEpochMillis? millis.toInt = some t) :
    toMillis (.instant t) = .ok (.integer millis) := by
  rw [toMillis, Instant.epochMillis_of_ofEpochMillis? h, Int64.ofInt_toInt]

/-- An instant that is kept comes back as its whole milliseconds. -/
theorem ofMillis_toMillis {t : Instant} (h : t.isLeapSecond = false) (type : TypeDecl) :
    (do ofMillis (← toMillis (.instant t)) type) = .ok (.instant t.floorMillis) := by
  have hmillis : (Int64.ofInt t.epochMillis).toInt = t.epochMillis :=
    Int64.toInt_ofInt_of_le t.epochMillis_bounds.1 t.epochMillis_bounds.2
  show ofMillis (.integer (Int64.ofInt t.epochMillis)) type = _
  rw [ofMillis_integer_eq_ok_iff, hmillis]
  exact ⟨_, Instant.ofEpochMillis?_epochMillis h, rfl⟩

end Adapter

/-! ## Paths -/

/-- A path to an attribute that is kept as milliseconds, with the integer that its accessor reads from
the value in front of it. -/
structure MillisPath (env : Environment) (ctx : Context) where
  start : PathStart
  front : List Attribute
  last : Attribute
  accessor : Accessor
  owner : Value
  millis : Int64
  adapter_eq : last.adapter = some .epochMillis
  accessor_eq : last.accessor = some accessor
  evaluate_front : (start.through front).evaluate env ctx = .ok owner
  present : owner.isNull = false
  read_eq : accessor.read env ctx owner last = .ok (.integer millis)

namespace MillisPath

variable {env : Environment} {ctx : Context} (p : MillisPath env ctx)

def expr : Expr := p.start.through (p.front ++ [p.last])

/-- The integer that is kept, as an expression of its own. -/
def kept : Expr := .scalar Standard.integer (.integer p.millis)

theorem type_expr : p.expr.type = p.last.type := by
  rw [expr, PathStart.type_through, pathType_append]
  rfl

theorem readFrom_last :
    p.last.readFrom env ctx p.owner =
      (fun v => ⟨v, some .epochMillis⟩) <$> Adapter.ofMillis (.integer p.millis) p.last.type := by
  simp only [Attribute.readFrom, p.accessor_eq, p.read_eq, p.adapter_eq]
  -- nothing is left but what the adapter makes of the integer
  show (do
    let internal ← Adapter.ofMillis (.integer p.millis) p.last.type
    .ok (Adapted.mk internal (some .epochMillis))) = _
  cases Adapter.ofMillis (.integer p.millis) p.last.type <;> rfl

/-- The path ends with the instant that the integer is read as, and with the adapter in effect. -/
theorem eval_expr :
    p.expr.eval env ctx =
      (fun v => ⟨v, some .epochMillis⟩) <$> Adapter.ofMillis (.integer p.millis) p.expr.type := by
  have hpresent : ¬ (Adapted.plain p.owner).isNull := by
    rw [Adapted.isNull, Adapted.plain, p.present]
    exact Bool.false_ne_true
  -- a cut in front of the last attribute, where the value is known
  rw [type_expr, expr, ← PathStart.eval_split p.start p.front (List.cons_ne_nil p.last []),
    Expr.eval_path, p.evaluate_front, ← readFrom_last]
  exact followPath_singleton hpresent p.last

theorem evaluate_expr :
    p.expr.evaluate env ctx = Adapter.ofMillis (.integer p.millis) p.expr.type := by
  rw [Expr.evaluate, p.eval_expr, Functor.map_map]
  exact id_map _

theorem evaluate_eq_ok_iff {v : Value} : p.expr.evaluate env ctx = .ok v ↔
    ∃ t, Instant.ofEpochMillis? p.millis.toInt = some t ∧ v = .instant t := by
  rw [p.evaluate_expr, Adapter.ofMillis_integer_eq_ok_iff]

theorem evaluateInModelForm_expr {v : Value} (h : p.expr.evaluate env ctx = .ok v) :
    p.expr.evaluateInModelForm env ctx = .ok (.integer p.millis) := by
  obtain ⟨t, ht, rfl⟩ := p.evaluate_eq_ok_iff.mp h
  rw [p.evaluate_expr] at h
  rw [Expr.evaluateInModelForm, p.eval_expr, h]
  exact Adapter.toMillis_of_ofEpochMillis? ht

/-- Two such paths are compared as the integers that are kept. -/
theorem eval_comparison_expr {q : MillisPath env ctx} {l r : Value}
    (hp : p.expr.evaluate env ctx = .ok l) (hq : q.expr.evaluate env ctx = .ok r)
    (hrule : p.expr.type.comparison = some .timestamp) (negated : Bool)
    (op : ComparisonOperator) :
    (Predicate.comparison negated op p.expr q.expr).eval env ctx =
      (Predicate.comparison negated op p.kept q.kept).eval env ctx := by
  obtain ⟨s, hs, rfl⟩ := p.evaluate_eq_ok_iff.mp hp
  obtain ⟨t, ht, rfl⟩ := q.evaluate_eq_ok_iff.mp hq
  have hinstants : env.compare ctx p.expr.type q.expr.type (.instant s) (.instant t) op =
      .ok (some (op.test (s.compare t))) := by
    rw [Environment.compare, hrule]
    rfl
  have hintegers : env.compare ctx p.kept.type q.kept.type (.integer p.millis)
      (.integer q.millis) op =
        .ok (some (op.test (Ord.compare p.millis.toInt q.millis.toInt))) := rfl
  rw [Instant.compare_of_ofEpochMillis? hs ht] at hinstants
  rw [Predicate.eval_comparison, Predicate.eval_comparison, hp, hq]
  -- neither side has an absent operand, so both come to the comparison
  show (do
      let answer ← env.compare ctx p.expr.type q.expr.type (.instant s) (.instant t) op
      .ok (answer.map (· != negated))) = (do
      let answer ← env.compare ctx p.kept.type q.kept.type (.integer p.millis)
        (.integer q.millis) op
      .ok (answer.map (· != negated)))
  rw [hinstants, hintegers]

end MillisPath

/-- **Milliseconds.** Integers that are read as instants come back from them and are ordered alike. An
instant outside of a leap second that is kept and read again is the latest whole millisecond that is
not after it. A path to an attribute that is kept as milliseconds has the value that the integer is
read as; if there is one, it is that integer in the model's form, and two such paths are compared by
the rule of instants as the integers are. -/
theorem epochMillis_transparent (env : Environment) (ctx : Context) :
    (∀ (n m : Int64) (s t : Instant) (typeOfN typeOfM keptType : TypeDecl),
      Adapter.epochMillis.toInternal env ctx (.integer n) typeOfN = .ok (.instant s) →
      Adapter.epochMillis.toInternal env ctx (.integer m) typeOfM = .ok (.instant t) →
      Adapter.epochMillis.toModel env ctx (.instant s) keptType = .ok (.integer n) ∧
        (s.compare t = .lt ↔ n < m)) ∧
    (∀ (t : Instant) (keptType type : TypeDecl), t.isLeapSecond = false → ∃ u,
      (do
        let kept ← Adapter.epochMillis.toModel env ctx (.instant t) keptType
        Adapter.epochMillis.toInternal env ctx kept type) = .ok (.instant u) ∧
      Instant.IsLatest Instant.IsWholeMillis t u) ∧
    (∀ p : MillisPath env ctx,
      p.expr.evaluate env ctx =
          Adapter.epochMillis.toInternal env ctx (.integer p.millis) p.expr.type ∧
        ∀ v, p.expr.evaluate env ctx = .ok v →
          p.expr.evaluateInModelForm env ctx = .ok (.integer p.millis)) ∧
    ∀ (p q : MillisPath env ctx) (l r : Value), p.expr.evaluate env ctx = .ok l →
      q.expr.evaluate env ctx = .ok r → p.expr.type.comparison = some .timestamp →
      ∀ negated op, (Predicate.comparison negated op p.expr q.expr).eval env ctx =
        (Predicate.comparison negated op p.kept q.kept).eval env ctx := by
  refine ⟨fun n m s t typeOfN typeOfM keptType hs ht => ?_,
    fun t keptType type hleap => ?_, fun p => ?_,
    fun p q l r hl hr hrule negated op => p.eval_comparison_expr hl hr hrule negated op⟩
  · obtain ⟨s, hread, hsame⟩ := Adapter.ofMillis_integer_eq_ok_iff.mp hs
    obtain ⟨t, hread', hsame'⟩ := Adapter.ofMillis_integer_eq_ok_iff.mp ht
    cases hsame
    cases hsame'
    refine ⟨Adapter.toMillis_of_ofEpochMillis? hread, ?_⟩
    rw [Instant.compare_of_ofEpochMillis? hread hread', Int.compare_eq_lt, Int64.lt_iff_toInt_lt]
  · exact ⟨t.floorMillis, Adapter.ofMillis_toMillis hleap type, t.isLatest_floorMillis⟩
  · exact ⟨p.evaluate_expr, fun v hv => p.evaluateInModelForm_expr hv⟩

/-- The last millisecond before 1970. -/
def lastMillisecond : Instant :=
  { Instant.startOfDay ⟨719161, by decide, by decide⟩ with
    second := secondsPerDay - 1, nanosecond := 999000000
    second_lt := by decide, nanosecond_lt := by decide }

/-- Half a millisecond before 1970. -/
def halfMillisecond : Instant :=
  { lastMillisecond with nanosecond := 999500000, nanosecond_lt := by decide }

/-- The first second of 1970. -/
def firstSecond : Instant :=
  { Instant.startOfDay ⟨719162, by decide, by decide⟩ with second := 1, second_lt := by decide }

/-- Two customers, of which one joined before 1970 began and the other, by an order, a second after. -/
def customers : Context :=
  ⟨[("customer", .entity "Customer" [("joined", .integer (-1))]), ("order", order)]⟩

def joinedBefore : MillisPath .utc customers where
  start := .root "customer" (.bare "Customer" .entity)
  front := []
  last := joined
  accessor := .entity
  owner := .entity "Customer" [("joined", .integer (-1))]
  millis := -1
  adapter_eq := rfl
  accessor_eq := rfl
  evaluate_front := rfl
  present := rfl
  read_eq := rfl

def joinedAfter : MillisPath .utc customers where
  start := .root "order" (.bare "Order" .entity)
  front := [customer]
  last := joined
  accessor := .entity
  owner := .entity "Customer" [("joined", .integer 1000)]
  millis := 1000
  adapter_eq := rfl
  accessor_eq := rfl
  evaluate_front := rfl
  present := rfl
  read_eq := rfl

/-- On both sides of the start of 1970 the integers lead to instants and back in their order, also at
the end of paths; and half a millisecond before it is cut off toward the past. -/
theorem customers_transparent :
    Adapter.epochMillis.toInternal .utc customers (.integer (-1)) Standard.timestamp =
        .ok (.instant lastMillisecond) ∧
      Adapter.epochMillis.toInternal .utc customers (.integer 1000) Standard.timestamp =
        .ok (.instant firstSecond) ∧
      Adapter.epochMillis.toModel .utc customers (.instant lastMillisecond) Standard.timestamp =
        .ok (.integer (-1)) ∧
      (lastMillisecond.compare firstSecond = .lt ↔ (-1 : Int64) < 1000) ∧
      halfMillisecond.isLeapSecond = false ∧
      Instant.IsLatest Instant.IsWholeMillis halfMillisecond lastMillisecond ∧
      joinedBefore.expr.evaluate .utc customers = .ok (.instant lastMillisecond) ∧
      joinedAfter.expr.evaluate .utc customers = .ok (.instant firstSecond) ∧
      joinedBefore.expr.evaluateInModelForm .utc customers = .ok (.integer (-1)) ∧
      joinedBefore.expr.type.comparison = some .timestamp ∧
      (Predicate.comparison false .lower joinedBefore.expr joinedAfter.expr).eval .utc customers =
        (Predicate.comparison false .lower joinedBefore.kept joinedAfter.kept).eval .utc
          customers := by
  obtain ⟨hintegers, hinstants, hpaths, hcompared⟩ := epochMillis_transparent .utc customers
  have hlast : Adapter.epochMillis.toInternal .utc customers (.integer (-1)) Standard.timestamp =
      .ok (.instant lastMillisecond) := rfl
  have hfirst : Adapter.epochMillis.toInternal .utc customers (.integer 1000) Standard.timestamp =
      .ok (.instant firstSecond) := rfl
  obtain ⟨hback, horder⟩ := hintegers _ _ _ _ _ _ Standard.timestamp hlast hfirst
  obtain ⟨u, hcut, hlatest⟩ :=
    hinstants halfMillisecond Standard.timestamp Standard.timestamp rfl
  have hu : lastMillisecond = u := Value.instant.inj (Except.ok.inj hcut)
  have hbefore : joinedBefore.expr.evaluate .utc customers = .ok (.instant lastMillisecond) := rfl
  have hafter : joinedAfter.expr.evaluate .utc customers = .ok (.instant firstSecond) := rfl
  exact ⟨hlast, hfirst, hback, horder, rfl, hu ▸ hlatest, hbefore, hafter,
    (hpaths joinedBefore).2 _ hbefore, rfl,
    hcompared joinedBefore joinedAfter _ _ hbefore hafter rfl false .lower⟩

end TypedExpr
