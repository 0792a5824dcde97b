import Tauri.Cli.Result

/-!
# Choosing an iOS device or simulator

`connected_device_prompt` and `simulator_prompt` (`mobile/ios/mod.rs`) pick a device by name.
With a target `t`, each device is scored by `sublime_fuzzy::best_match(t, name)` (`0` when it
does not match), and the pick is

    list.into_iter().rev().map(|d| (d, score(d))).max_by_key(|(_, s)| *s).unwrap()

kept only if its score exceeds `MIN_DEVICE_MATCH_SCORE`.  `max_by_key` keeps the **last** of
equal maxima, and the list is reversed first, so the pick is the **first** device of the list
with the greatest score (`maxByKey_reverse`).  The `unwrap` cannot fire: the list was checked
non-empty.

The fuzzy matcher, the constant and the device names come from outside the file; they are the
section's variables.  The listing and prompting functions of `cargo_mobile2` are the `Env`.
-/

namespace Tauri.Cli.Ios

variable {α D S : Type}

/-! ### `max_by_key` -/

/-- `Iterator::reduce`. -/
def reduce (f : α → α → α) : List α → Option α
  | [] => none
  | x :: xs => some (xs.foldl f x)

/-- `Iterator::max_by_key`: `reduce` with `cmp::max_by`, which keeps the second of two equal
keys. -/
def maxByKey (key : α → Int) (l : List α) : Option α :=
  reduce (fun a b => if key b < key a then a else b) l

theorem reduce_append_singleton (f : α → α → α) (l : List α) (a : α) :
    reduce f (l ++ [a]) = some ((reduce f l).elim a (f · a)) := by
  cases l <;> simp [reduce, List.foldl_append]

theorem reduce_map {β : Type} (f : β → β → β) (g : α → α → α) (φ : α → β)
    (h : ∀ a b, f (φ a) (φ b) = φ (g a b)) (l : List α) :
    reduce f (l.map φ) = (reduce g l).map φ := by
  cases l with
  | nil => rfl
  | cons x xs =>
    simp only [List.map_cons, reduce, Option.map_some']
    induction xs generalizing x with
    | nil => rfl
    | cons y ys ih => simp only [List.map_cons, List.foldl_cons, h, ih]

/-- Scoring each element and keeping the pair does not change which element wins. -/
theorem maxByKey_map_pair (score : α → Int) (l : List α) :
    maxByKey (·.2) (l.map fun d => (d, score d)) =
      (maxByKey score l).map fun d => (d, score d) :=
  reduce_map _ _ _ (fun a b => by dsimp only; split <;> rfl) l

/-! ### The first best element -/

/-- The first element of `l` whose score is the greatest in `l`. -/
def firstBest (score : α → Int) (l : List α) : Option α :=
  l.find? fun d => l.all fun e => score e ≤ score d

/-- `d` sits in `l` after elements scoring less and before elements scoring no more. -/
def FirstMax (score : α → Int) (l : List α) (d : α) : Prop :=
  ∃ pre post, l = pre ++ d :: post ∧ (∀ x ∈ pre, score x < score d) ∧
    ∀ x ∈ post, score x ≤ score d

theorem FirstMax.le {score : α → Int} {l : List α} {d : α} (h : FirstMax score l d) :
    ∀ x ∈ l, score x ≤ score d := by
  obtain ⟨pre, post, rfl, hpre, hpost⟩ := h
  intro x hx
  simp only [List.mem_append, List.mem_cons] at hx
  rcases hx with hx | rfl | hx
  · exact (hpre x hx).le
  · exact le_rfl
  · exact hpost x hx

theorem FirstMax.firstBest {score : α → Int} {l : List α} {d : α} (h : FirstMax score l d) :
    firstBest score l = some d := by
  have hle := h.le
  obtain ⟨pre, post, hl, hpre, -⟩ := h
  refine List.find?_eq_some.mpr ⟨by simpa using hle, pre, post, hl, fun x hx => ?_⟩
  simp only [List.all_eq_true, decide_eq_true_eq, Bool.not_eq_true', Bool.not_eq_eq_eq_not,
    Bool.not_true, List.all_eq_false, not_le]
  exact ⟨d, by simp [hl], hpre x hx⟩

/-- **Reversing and then keeping the last maximum keeps the first maximum.** -/
theorem maxByKey_reverse (score : α → Int) :
    ∀ l : List α, l ≠ [] → ∃ d, maxByKey score l.reverse = some d ∧ FirstMax score l d
  | [], h => absurd rfl h
  | [a], _ => ⟨a, rfl, [], [], rfl, nofun, nofun⟩
  | a :: b :: rest, _ => by
    obtain ⟨d, hd, hmax⟩ := maxByKey_reverse score (b :: rest) (List.cons_ne_nil _ _)
    rw [List.reverse_cons, maxByKey, reduce_append_singleton, ← maxByKey, hd]
    by_cases hlt : score a < score d
    · refine ⟨d, by simp [hlt], ?_⟩
      obtain ⟨pre, post, hl, hpre, hpost⟩ := hmax
      refine ⟨a :: pre, post, by rw [hl]; rfl, ?_, hpost⟩
      simpa [hlt] using hpre
    · refine ⟨a, by simp [hlt], [], b :: rest, rfl, nofun, fun x hx => ?_⟩
      exact (hmax.le x hx).trans (not_lt.mp hlt)

/-! ### The prompts -/

/-- What the prompts get from `cargo_mobile2`: `device::list_devices(env)`,
`device::list_simulators(env)`, and `prompt::list(header, items, ..)`, the index picked among
that many items. -/
structure Env (D S : Type) where
  listDevices : Except String (List D)
  listSimulators : Except String (List S)
  promptList : String → Nat → Except String Nat

section Prompts

/-! `bestMatch t name` is the score of `sublime_fuzzy::best_match(t, name)`, `none` when there
is no match; `minDeviceMatchScore` is `MIN_DEVICE_MATCH_SCORE`. -/

variable (bestMatch : String → String → Option Int) (minDeviceMatchScore : Int)

/-- `best_match(t, d.name()).map_or(0, |m| m.score())`. -/
def matchScore (name : α → String) (t : String) (d : α) : Int := (bestMatch t (name d)).getD 0

/-- The `Some(t)` arm shared by both prompts. -/
def bestMatching (name : α → String) (t : String) (list : List α) (notFound : String) :
    Except Failure α := do
  let (device, score) ← unwrap <|
    maxByKey (·.2) (list.reverse.map fun d => (d, matchScore bestMatch name t d))
  if score > minDeviceMatchScore then pure device else throw (.error notFound)

/-- `connected_device_prompt`.  The closing `println!` is not modelled. -/
def connectedDevicePrompt (deviceName : D → String) (env : Env D S) (target : Option String) :
    Except Failure D := do
  let deviceList ← env.listDevices.mapError
    fun cause => .error s!"Failed to detect connected iOS devices: {cause}"
  if !deviceList.isEmpty then
    match target with
    | some t =>
      bestMatching bestMatch minDeviceMatchScore deviceName t deviceList
        s!"Could not find an iOS device matching {t}"
    | none => do
      let index ← if deviceList.length > 1 then
          (env.promptList "Detected iOS devices" deviceList.length).mapError
            fun cause => .error s!"Failed to prompt for iOS device: {cause}"
        else pure 0
      unwrap deviceList[index]?
  else throw (.error "No connected iOS devices detected")

/-- `simulator_prompt`. -/
def simulatorPrompt (simulatorName : S → String) (env : Env D S) (target : Option String) :
    Except Failure S := do
  let simulatorList ← env.listSimulators.mapError
    fun cause => .error s!"Failed to detect connected iOS Simulator devices: {cause}"
  if !simulatorList.isEmpty then
    match target with
    | some t =>
      bestMatching bestMatch minDeviceMatchScore simulatorName t simulatorList
        s!"Could not find an iOS Simulator matching {t}"
    | none =>
      if simulatorList.length > 1 then do
        let index ← (env.promptList "Detected iOS simulators" simulatorList.length).mapError
          fun cause => .error s!"Failed to prompt for iOS Simulator device: {cause}"
        unwrap simulatorList[index]?
      else unwrap simulatorList.head?
  else throw (.error "No available iOS Simulator detected")

/-- **The shared arm picks the first best match**, and fails with its message, never a panic,
when that match does not score above the minimum. -/
theorem bestMatching_eq (name : α → String) (t : String) (list : List α) (notFound : String)
    (hne : list ≠ []) :
    ∃ d, firstBest (matchScore bestMatch name t) list = some d ∧
      bestMatching bestMatch minDeviceMatchScore name t list notFound =
        if minDeviceMatchScore < matchScore bestMatch name t d then .ok d
        else .error (.error notFound) := by
  obtain ⟨d, hd, hmax⟩ := maxByKey_reverse (matchScore bestMatch name t) list hne
  refine ⟨d, hmax.firstBest, ?_⟩
  rw [bestMatching, maxByKey_map_pair, hd]
  rfl

/-- **Both prompts pick the first best-scoring device.**  For a non-empty list and a target
`t`, each prompt returns the first entry of the list whose score is the greatest, when that
score exceeds `MIN_DEVICE_MATCH_SCORE`, and an error, not a panic, otherwise. -/
theorem prompts_target (deviceName : D → String) (simulatorName : S → String) (env : Env D S)
    (t : String) :
    (∀ devices, env.listDevices = .ok devices → devices ≠ [] →
      ∃ d, firstBest (fun d => (bestMatch t (deviceName d)).getD 0) devices = some d ∧
        connectedDevicePrompt bestMatch minDeviceMatchScore deviceName env (some t) =
          if minDeviceMatchScore < (bestMatch t (deviceName d)).getD 0 then .ok d
          else .error (.error s!"Could not find an iOS device matching {t}")) ∧
    (∀ simulators, env.listSimulators = .ok simulators → simulators ≠ [] →
      ∃ s, firstBest (fun s => (bestMatch t (simulatorName s)).getD 0) simulators = some s ∧
        simulatorPrompt bestMatch minDeviceMatchScore simulatorName env (some t) =
          if minDeviceMatchScore < (bestMatch t (simulatorName s)).getD 0 then .ok s
          else .error (.error s!"Could not find an iOS Simulator matching {t}")) := by
  constructor
  · intro devices h hne
    have hlist : devices.isEmpty = false := List.isEmpty_eq_false.mpr hne
    simp only [connectedDevicePrompt, h, Except.mapError, bind, Except.bind, hlist,
      Bool.not_false, if_true]
    exact bestMatching_eq bestMatch minDeviceMatchScore deviceName t devices _ hne
  · intro simulators h hne
    have hlist : simulators.isEmpty = false := List.isEmpty_eq_false.mpr hne
    simp only [simulatorPrompt, h, Except.mapError, bind, Except.bind, hlist,
      Bool.not_false, if_true]
    exact bestMatching_eq bestMatch minDeviceMatchScore simulatorName t simulators _ hne

/-- Two devices and one simulator, matched by exact name. -/
theorem prompts_target_iPad :
    let bestMatch : String → String → Option Int := fun t n => if t = n then some 10 else none
    let env : Env String String :=
      ⟨.ok ["iPhone 15", "iPad"], .ok ["iPhone 15 Simulator"], fun _ _ => .ok 0⟩
    let t := "iPad"
    (∃ d, firstBest (fun d => (bestMatch t (id d)).getD 0) ["iPhone 15", "iPad"] = some d ∧
      connectedDevicePrompt bestMatch 0 id env (some t) =
        if 0 < (bestMatch t (id d)).getD 0 then .ok d
        else .error (.error s!"Could not find an iOS device matching {t}")) ∧
    (∃ s, firstBest (fun s => (bestMatch t (id s)).getD 0) ["iPhone 15 Simulator"] = some s ∧
      simulatorPrompt bestMatch 0 id env (some t) =
        if 0 < (bestMatch t (id s)).getD 0 then .ok s
        else .error (.error s!"Could not find an iOS Simulator matching {t}")) := by
  intro bestMatch env t
  exact ⟨(prompts_target bestMatch 0 id id env t).1 _ rfl (by simp),
    (prompts_target bestMatch 0 id id env t).2 _ rfl (by simp)⟩

/-! ### `device_prompt`: a connected device, else a started simulator -/

/-- `device_prompt`.  `if let Ok(device) = connected_device_prompt(..)` falls back to the
simulators on any error; a panic is not an `Err` and unwinds through it.  `intoDevice` is
`Simulator::into`, `startDetached` is `Simulator::start_detached`; the `log::info!` line is not
modelled. -/
def devicePrompt (deviceName : D → String) (simulatorName : S → String)
    (startDetached : S → Except String Unit) (intoDevice : S → D) (env : Env D S)
    (target : Option String) : Except Failure D :=
  match connectedDevicePrompt bestMatch minDeviceMatchScore deviceName env target with
  | .ok device => .ok device
  | .error (.panic msg) => .error (.panic msg)
  | .error (.error _) => do
    let simulator ← simulatorPrompt bestMatch minDeviceMatchScore simulatorName env target
    (startDetached simulator).mapError .error
    pure (intoDevice simulator)

/-! `prompt::list` answers with an index among the items it lists; the prompts call it only
with more than one item. -/

variable {env : Env D S}
  (hprompt : ∀ header n i, 1 < n → env.promptList header n = .ok i → i < n)

theorem bestMatching_noPanic (name : α → String) (t : String) {list : List α}
    (notFound : String) (hne : list ≠ []) :
    NoPanic (bestMatching bestMatch minDeviceMatchScore name t list notFound) := by
  obtain ⟨d, -, h⟩ := bestMatching_eq bestMatch minDeviceMatchScore name t list notFound hne
  rw [h]
  split <;> simp

include hprompt in
/-- Prompting among the items of a list of more than one and unwrapping the item at the index
answered does not panic. -/
theorem promptList_noPanic {l : List α} {header : String} {g : String → String}
    {other : Except Failure α} (hother : NoPanic other) :
    NoPanic (if l.length > 1 then
        (env.promptList header l.length).mapError (fun cause => .error (g cause)) >>=
          fun index => unwrap l[index]?
      else other) := by
  split
  · refine NoPanic.bind (noPanic_mapError _ _) fun index h => noPanic_unwrap_getElem? ?_
    cases hx : env.promptList header l.length <;>
      simp only [hx, Except.mapError, Except.ok.injEq, reduceCtorEq] at h
    exact hprompt _ _ _ ‹_› (h ▸ hx)
  · exact hother

include hprompt in
theorem connectedDevicePrompt_noPanic (deviceName : D → String) (target : Option String) :
    NoPanic (connectedDevicePrompt bestMatch minDeviceMatchScore deviceName env target) := by
  refine NoPanic.bind (noPanic_mapError _ _) fun devices _ => ?_
  rcases devices with _ | ⟨d, rest⟩
  · simp
  · simp only [List.isEmpty_cons, Bool.not_false, if_true]
    cases target with
    | some t => exact bestMatching_noPanic _ _ _ t _ (List.cons_ne_nil _ _)
    | none => exact promptList_noPanic hprompt (by simp)

include hprompt in
theorem simulatorPrompt_noPanic (simulatorName : S → String) (target : Option String) :
    NoPanic (simulatorPrompt bestMatch minDeviceMatchScore simulatorName env target) := by
  refine NoPanic.bind (noPanic_mapError _ _) fun simulators _ => ?_
  rcases simulators with _ | ⟨s, rest⟩
  · simp
  · simp only [List.isEmpty_cons, Bool.not_false, if_true]
    cases target with
    | some t => exact bestMatching_noPanic _ _ _ t _ (List.cons_ne_nil _ _)
    | none => exact promptList_noPanic hprompt (by simp)

include hprompt in
/-- **`device_prompt` never panics**, as long as `prompt::list` answers with an index among
the items it lists: every `unwrap` of the prompts is on an element that exists. -/
theorem devicePrompt_noPanic (deviceName : D → String) (simulatorName : S → String)
    (startDetached : S → Except String Unit) (intoDevice : S → D) (target : Option String) :
    NoPanic (devicePrompt bestMatch minDeviceMatchScore deviceName simulatorName startDetached
      intoDevice env target) := by
  have hc := connectedDevicePrompt_noPanic bestMatch minDeviceMatchScore hprompt deviceName target
  unfold devicePrompt
  split
  · simp
  · next msg h => exact absurd (h ▸ hc) (not_noPanic_panic msg)
  · exact NoPanic.bind (simulatorPrompt_noPanic bestMatch minDeviceMatchScore hprompt _ _)
      fun s _ => NoPanic.bind (noPanic_mapError _ id) fun _ _ => noPanic_pure _

end Prompts

/-- Two connected devices and a target naming one of them, matched by exact name. -/
theorem devicePrompt_noPanic_iPad :
    let env : Env String String := ⟨.ok ["iPhone 15", "iPad"], .ok [], fun _ _ => .ok 0⟩
    (∀ header n i, 1 < n → env.promptList header n = .ok i → i < n) ∧
      NoPanic (devicePrompt (fun t n => if t = n then some 10 else none) 0 id id
        (fun _ => .ok ()) id env (some "iPad")) :=
  have hprompt : ∀ header n i, 1 < n → Except.ok 0 = Except.ok i → i < n := by
    rintro _ n i hn ⟨⟩
    omega
  ⟨hprompt, devicePrompt_noPanic _ _ hprompt _ _ _ _ _⟩

end Tauri.Cli.Ios
