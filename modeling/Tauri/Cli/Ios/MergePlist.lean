import Tauri.Cli.Result
import Tauri.Collections.BTreeMap

/-!
# Merging `Info.plist` files

`merge_plist(src, dest)` (`mobile/ios/mod.rs`) copies the top-level entries of every source
plist into the destination plist.  The destination is loaded lazily, when the first source
that loads is met, carried through the rest of the loop, and written once at the end.

The model runs the function against a `World`: what `plist::Value::from_file` gives at each
path, which writes fail, what a failed write leaves, and the log of every read and write.
`EStateM` keeps the world when `?` returns early, so the log after a failure is known too.

* `mergeSource_*`: the four things one turn of the loop can do;
* `foldlM_mergeSource_some`, `foldlM_mergeSource_none`: runs of turns, before and after the
  destination is loaded;
* `mergePlist_spec`: the whole function, by the first source that loads.  The merged value
  is `mergeSources`, whose keys take the value of the last source entry naming them, and whose
  keys are the destination's in place followed by the new ones (`mergeSources_dictionary`);
* `mergePlist_noPanic`: its `expect` never fires;
* `mergePlist_again`: a second run changes no file, since inserting the same entries again
  into a dictionary changes nothing (`foldl_dictInsert_again`).
-/

namespace Tauri.Cli.Ios

/-! ### Plist values -/

/-- `plist::Value`.  A `Real` is kept as the bits of its `f64`, a `Date` as nanoseconds since
the Unix epoch. -/
inductive Value
  | array (xs : List Value)
  | dictionary (entries : List (String × Value))
  | boolean (b : Bool)
  | data (bytes : List UInt8)
  | date (nanos : Int)
  | real (bits : UInt64)
  | integer (i : Int)
  | string (s : String)
  | uid (u : UInt64)

/-- `Dictionary::insert`, an `IndexMap` insertion: a present key keeps its place and takes the
new value, a new key goes last. -/
def dictInsert {β : Type} (d : List (String × β)) (k : String) (v : β) : List (String × β) :=
  match d with
  | [] => [(k, v)]
  | (k', v') :: rest => if k' = k then (k, v) :: rest else (k', v') :: dictInsert rest k v

/-- The keys of an `IndexMap` after an insert: a present key keeps its place, a new one goes
last. -/
def insertKey (keys : List String) (k : String) : List String :=
  if k ∈ keys then keys else keys ++ [k]

theorem getEntry?_dictInsert {β : Type} (d : List (String × β)) (k k' : String) (v : β) :
    getEntry? k' (dictInsert d k v) = if k = k' then some v else getEntry? k' d := by
  induction d with
  | nil => by_cases h : k = k' <;> simp [dictInsert, getEntry?, h]
  | cons e rest ih =>
    obtain ⟨k₀, v₀⟩ := e
    by_cases h : k₀ = k
    · subst h; by_cases h' : k₀ = k' <;> simp [dictInsert, getEntry?, h']
    · by_cases h' : k₀ = k'
      · subst h'
        have : k ≠ k₀ := fun h'' => h h''.symm
        simp [dictInsert, getEntry?, h, this]
      · simp [dictInsert, getEntry?, h, h', ih]

theorem getEntry?_foldl_dictInsert {β : Type} (d s : List (String × β)) (k : String) :
    getEntry? k (s.foldl (fun d e => dictInsert d e.1 e.2) d) =
      (getEntry? k s.reverse).or (getEntry? k d) := by
  induction s generalizing d with
  | nil => rfl
  | cons e rest ih =>
    rw [List.foldl_cons, ih, getEntry?_dictInsert, List.reverse_cons, getEntry?_append,
      Option.or_assoc]
    by_cases h : e.1 = k <;> simp [getEntry?, h]

theorem keys_dictInsert {β : Type} (d : List (String × β)) (k : String) (v : β) :
    (dictInsert d k v).map Prod.fst = insertKey (d.map Prod.fst) k := by
  induction d with
  | nil => simp [dictInsert, insertKey]
  | cons e rest ih =>
    obtain ⟨k', v'⟩ := e
    by_cases h : k' = k
    · subst h; simp [dictInsert, insertKey]
    · simp only [dictInsert, if_neg h, List.map_cons, ih, insertKey, List.mem_cons, Ne.symm h,
        false_or]
      split_ifs <;> rfl

theorem keys_foldl_dictInsert {β : Type} (d es : List (String × β)) :
    (es.foldl (fun d e => dictInsert d e.1 e.2) d).map Prod.fst =
      (es.map Prod.fst).foldl insertKey (d.map Prod.fst) := by
  induction es generalizing d with
  | nil => rfl
  | cons e rest ih => rw [List.foldl_cons, ih, keys_dictInsert]; rfl

theorem prefix_foldl_insertKey (ks l : List String) : ks <+: l.foldl insertKey ks := by
  induction l generalizing ks with
  | nil => exact List.prefix_refl ks
  | cons k rest ih =>
    refine List.IsPrefix.trans ?_ (ih _)
    unfold insertKey
    split_ifs
    · exact List.prefix_refl ks
    · exact List.prefix_append ks [k]

theorem nodup_foldl_insertKey {ks : List String} (h : ks.Nodup) (l : List String) :
    (l.foldl insertKey ks).Nodup := by
  induction l generalizing ks with
  | nil => exact h
  | cons k rest ih =>
    refine ih ?_
    unfold insertKey
    split_ifs with hk
    · exact h
    · exact List.pairwise_append.2 ⟨h, List.pairwise_singleton _ _, fun _ ha _ hb => by
        rintro rfl; exact hk (List.mem_singleton.1 hb ▸ ha)⟩

/-- The merge of one loaded source into the destination plist: `as_dictionary_mut` on the
destination, `into_dictionary` on the source, then an `insert` per source entry. -/
def mergeInto : Value → Value → Value
  | .dictionary plist, .dictionary dict =>
    .dictionary (dict.foldl (fun plist e => dictInsert plist e.1 e.2) plist)
  | plist, _ => plist

/-! ### The file system -/

/-- A file access. -/
inductive Access
  | read (path : String)
  | write (path : String) (value : Value)

/-- The files as `merge_plist` sees them: what `plist::Value::from_file` gives at each path (a
value, or the error's message); the error `to_file_xml` meets writing a value to a path, if any
(the file cannot be created, or the value holds what XML cannot write, a `Uid`); what a path
holds after a write to it failed, left open, since `File::create` truncates the file before the
value is written; and every access so far, in order. -/
structure World where
  plists : String → Except String Value
  writeError : String → Value → Option String
  torn : String → Value → Except String Value
  log : List Access

/-- The world after some more accesses, files unchanged. -/
def World.record (w : World) (as : List Access) : World := { w with log := w.log ++ as }

@[simp] theorem World.record_plists (w : World) (as : List Access) :
    (w.record as).plists = w.plists := rfl

@[simp] theorem World.record_writeError (w : World) (as : List Access) :
    (w.record as).writeError = w.writeError := rfl

@[simp] theorem World.record_torn (w : World) (as : List Access) :
    (w.record as).torn = w.torn := rfl

@[simp] theorem World.record_record (w : World) (as bs : List Access) :
    (w.record as).record bs = w.record (as ++ bs) := by
  simp [record, List.append_assoc]

@[simp] theorem World.record_nil (w : World) : w.record [] = w := by simp [record]

/-- A computation on the files, failing with the world as it was left. -/
abbrev PlistM := EStateM Failure World

/-- `plist::Value::from_file`. -/
def fromFile (path : String) : PlistM (Except String Value) := fun w =>
  .ok (w.plists path) (w.record [.read path])

/-- `Value::to_file_xml`.  A successful write is what the path loads as afterwards; after a
failed one the path holds what the world's `torn` says. -/
def toFileXml (v : Value) (path : String) : PlistM Unit := fun w =>
  let w := w.record [.write path v]
  match w.writeError path v with
  | some e => .error (.error e) { w with plists := Function.update w.plists path (w.torn path v) }
  | none => .ok () { w with plists := Function.update w.plists path (.ok v) }

/-! ### `merge_plist` -/

/-- The body of the `for src_path in src` loop; `destPlist` is the loop's `dest_plist`. -/
def mergeSource (dest : String) (destPlist : Option Value) (srcPath : String) :
    PlistM (Option Value) := do
  match ← fromFile srcPath with
  | .error _ => pure destPlist
  | .ok srcPlist =>
    let destPlist ← match destPlist with
      | none => do
        match ← fromFile dest with
        | .ok plist => pure (some plist)
        | .error e => throw (.error e)
      | some plist => pure (some plist)
    match destPlist with
    | none => throw (.panic "Info.plist not loaded")
    | some plist => pure (some (mergeInto plist srcPlist))

/-- `merge_plist`. -/
def mergePlist (src : List String) (dest : String) : PlistM Unit := do
  let destPlist ← src.foldlM (mergeSource dest) none
  match destPlist with
  | some destPlist => toFileXml destPlist dest
  | none => pure ()

/-- The destination plist `v` with every source that loads merged in, in order. -/
def mergeSources (plists : String → Except String Value) (src : List String) (v : Value) :
    Value :=
  src.foldl (fun acc q => match plists q with
    | .ok s => mergeInto acc s
    | .error _ => acc) v

/-- The entries a loaded file contributes: its own if it is a dictionary, else none. -/
def entriesOf : Except String Value → List (String × Value)
  | .ok (.dictionary s) => s
  | _ => []

/-- The entries of the sources that load as dictionaries, in order. -/
def sourceEntries (plists : String → Except String Value) (src : List String) :
    List (String × Value) :=
  src.flatMap fun q => entriesOf (plists q)

theorem sourceEntries_cons (plists : String → Except String Value) (q : String)
    (rest : List String) :
    sourceEntries plists (q :: rest) = entriesOf (plists q) ++ sourceEntries plists rest := rfl

/-! ### One turn of the loop -/

section Turn

variable {dest q : String} {w : World}

theorem mergeSource_of_error {e : String} (acc : Option Value) (h : w.plists q = .error e) :
    mergeSource dest acc q w = .ok acc (w.record [.read q]) := by
  simp [mergeSource, fromFile, h, bind, EStateM.bind, pure, EStateM.pure]

theorem mergeSource_some {s : Value} (a : Value) (h : w.plists q = .ok s) :
    mergeSource dest (some a) q w = .ok (some (mergeInto a s)) (w.record [.read q]) := by
  simp [mergeSource, fromFile, h, bind, EStateM.bind, pure, EStateM.pure]

theorem mergeSource_none_ok {s v : Value} (h : w.plists q = .ok s) (hd : w.plists dest = .ok v) :
    mergeSource dest none q w = .ok (some (mergeInto v s)) (w.record [.read q, .read dest]) := by
  simp [mergeSource, fromFile, h, hd, bind, EStateM.bind, pure, EStateM.pure]

theorem mergeSource_none_error {s : Value} {e : String} (h : w.plists q = .ok s)
    (hd : w.plists dest = .error e) :
    mergeSource dest none q w = .error (.error e) (w.record [.read q, .read dest]) := by
  simp [mergeSource, fromFile, h, hd, bind, EStateM.bind, pure, EStateM.pure, throw,
    throwThe, MonadExceptOf.throw, EStateM.throw]

end Turn

/-! ### Runs of turns -/

section Run

variable {α β : Type} {dest : String}

theorem PlistM.bind_ok {x : PlistM α} {f : α → PlistM β} {w w' : World} {a : α}
    (h : x w = .ok a w') : (x >>= f) w = f a w' := by
  simp [bind, EStateM.bind, h]

theorem PlistM.bind_error {x : PlistM α} {f : α → PlistM β} {w w' : World} {e : Failure}
    (h : x w = .error e w') : (x >>= f) w = .error e w' := by
  simp [bind, EStateM.bind, h]

theorem mergeSources_cons (plists : String → Except String Value) (q : String)
    (rest : List String) (v : Value) :
    mergeSources plists (q :: rest) v =
      mergeSources plists rest (match plists q with
        | .ok s => mergeInto v s
        | .error _ => v) := rfl

theorem mergeSources_of_toBool_false {plists : String → Except String Value} {pre : List String}
    (hpre : ∀ q ∈ pre, (plists q).toBool = false) (v : Value) :
    mergeSources plists pre v = v := by
  induction pre with
  | nil => rfl
  | cons q rest ih =>
    simp only [List.mem_cons, forall_eq_or_imp] at hpre
    cases h : plists q with
    | error e => rw [mergeSources_cons, h, ih hpre.2]
    | ok s => simp [h, Except.toBool] at hpre

/-- **After the destination is loaded**, each turn reads its source and merges it if it
loads. -/
theorem foldlM_mergeSource_some (l : List String) (a : Value) (w : World) :
    l.foldlM (mergeSource dest) (some a) w =
      .ok (some (mergeSources w.plists l a)) (w.record (l.map .read)) := by
  induction l generalizing a w with
  | nil => simp [pure, EStateM.pure, mergeSources]
  | cons q rest ih =>
    rw [List.foldlM_cons, mergeSources_cons]
    cases h : w.plists q with
    | error e => rw [PlistM.bind_ok (mergeSource_of_error _ h), ih]; simp
    | ok s => rw [PlistM.bind_ok (mergeSource_some _ h), ih]; simp

/-- **Before the destination is loaded**, sources that do not load are read and skipped. -/
theorem foldlM_mergeSource_none {pre : List String} (w : World)
    (hpre : ∀ q ∈ pre, (w.plists q).toBool = false) :
    pre.foldlM (mergeSource dest) none w = .ok none (w.record (pre.map .read)) := by
  induction pre generalizing w with
  | nil => simp [pure, EStateM.pure]
  | cons q rest ih =>
    simp only [List.mem_cons, forall_eq_or_imp] at hpre
    cases h : w.plists q with
    | error e =>
      rw [List.foldlM_cons, PlistM.bind_ok (mergeSource_of_error _ h), ih _ (by simpa using hpre.2)]
      simp
    | ok s => simp [h, Except.toBool] at hpre

theorem mergeSources_append (plists : String → Except String Value) (l₁ l₂ : List String)
    (v : Value) : mergeSources plists (l₁ ++ l₂) v = mergeSources plists l₂ (mergeSources plists l₁ v) :=
  List.foldl_append _ _ _ _

section First

variable {pre post : List String} {p : String} {s : Value} (w : World)
  (hpre : ∀ q ∈ pre, (w.plists q).toBool = false) (hs : w.plists p = .ok s)
include hpre hs

/-- **The first source that loads, when the destination does not**: the loop stops there. -/
theorem foldlM_mergeSource_dest_error {e : String} (hd : w.plists dest = .error e) :
    (pre ++ p :: post).foldlM (mergeSource dest) none w =
      .error (.error e) (w.record ((pre ++ [p]).map .read ++ [.read dest])) := by
  rw [List.foldlM_append, PlistM.bind_ok (foldlM_mergeSource_none w hpre), List.foldlM_cons,
    PlistM.bind_error (@mergeSource_none_error dest p (w.record _) s _ hs hd)]
  simp

/-- **The first source that loads, when the destination does too**: the destination is read
right after it and carried through the rest of the loop. -/
theorem foldlM_mergeSource_dest_ok {v : Value} (hd : w.plists dest = .ok v) :
    (pre ++ p :: post).foldlM (mergeSource dest) none w =
      .ok (some (mergeSources w.plists (pre ++ p :: post) v))
        (w.record ((pre ++ [p]).map .read ++ .read dest :: post.map .read)) := by
  rw [List.foldlM_append, PlistM.bind_ok (foldlM_mergeSource_none w hpre), List.foldlM_cons,
    PlistM.bind_ok (@mergeSource_none_ok dest p (w.record _) s v hs hd),
    foldlM_mergeSource_some, mergeSources_append,
    mergeSources_of_toBool_false hpre, mergeSources_cons, hs]
  simp

end First

/-- **The loop, by the first source that loads.**  With no source loading, only the sources
are read.  Otherwise the sources before it are read, it is read, and the destination is read
right after it: if that fails, so does the function, files unchanged; if not, the remaining
sources are read and the merged value is written to the destination, once.  A failed write
leaves the destination as the world's `torn` says. -/
theorem mergePlist_run (src : List String) (dest : String) (w : World) :
    ((∀ p ∈ src, (w.plists p).toBool = false) →
      mergePlist src dest w = .ok () (w.record (src.map .read))) ∧
    ∀ pre p post, src = pre ++ p :: post → (∀ q ∈ pre, (w.plists q).toBool = false) →
      (w.plists p).toBool = true →
      (∀ e, w.plists dest = .error e →
        mergePlist src dest w =
          .error (.error e) (w.record ((pre ++ [p]).map .read ++ [.read dest]))) ∧
      (∀ v, w.plists dest = .ok v →
        let merged := mergeSources w.plists src v
        let w' := w.record
          ((pre ++ [p]).map .read ++ .read dest :: post.map .read ++ [.write dest merged])
        mergePlist src dest w = match w.writeError dest merged with
          | some e =>
            .error (.error e) { w' with plists := Function.update w.plists dest (w.torn dest merged) }
          | none => .ok () { w' with plists := Function.update w.plists dest (.ok merged) }) := by
  refine ⟨fun h => ?_, fun pre p post hsrc hpre hp => ?_⟩
  · rw [mergePlist, PlistM.bind_ok (foldlM_mergeSource_none w h)]
    rfl
  obtain ⟨s, hs⟩ : ∃ s, w.plists p = .ok s := by
    cases h : w.plists p with
    | error e => simp [h, Except.toBool] at hp
    | ok s => exact ⟨s, rfl⟩
  subst hsrc
  refine ⟨fun e hd => ?_, fun v hd => ?_⟩
  · rw [mergePlist, PlistM.bind_error (foldlM_mergeSource_dest_error w hpre hs hd)]
  · rw [mergePlist, PlistM.bind_ok (foldlM_mergeSource_dest_ok w hpre hs hd)]
    simp only [toFileXml, World.record_record, World.record_writeError, World.record_torn,
      List.append_assoc, List.cons_append]
    rfl

end Run

/-! ### The merged value -/

theorem mergeInto_of_not_dictionary {v : Value} (hv : ∀ d, v ≠ .dictionary d) (s : Value) :
    mergeInto v s = v := by
  cases v <;> first | rfl | exact absurd rfl (hv _)

theorem mergeSources_of_not_dictionary (plists : String → Except String Value)
    (src : List String) {v : Value} (hv : ∀ d, v ≠ .dictionary d) :
    mergeSources plists src v = v := by
  induction src with
  | nil => rfl
  | cons q rest ih =>
    rw [mergeSources_cons]
    cases plists q <;> simp only [mergeInto_of_not_dictionary hv, ih]

theorem merge_dictionary_step (r : Except String Value) (d : List (String × Value)) :
    (match r with
      | .ok s => mergeInto (.dictionary d) s
      | .error _ => .dictionary d) =
      .dictionary ((entriesOf r).foldl (fun d e => dictInsert d e.1 e.2) d) := by
  rcases r with _ | ⟨_ | _ | _ | _ | _ | _ | _ | _ | _⟩ <;> rfl

theorem mergeSources_dictionary_eq (plists : String → Except String Value) (src : List String)
    (d : List (String × Value)) :
    mergeSources plists src (.dictionary d) =
      .dictionary ((sourceEntries plists src).foldl (fun d e => dictInsert d e.1 e.2) d) := by
  induction src generalizing d with
  | nil => rfl
  | cons q rest ih => rw [mergeSources_cons, merge_dictionary_step, ih, sourceEntries_cons,
      List.foldl_append]

/-- **Each key takes the value of the last source entry naming it**, and the keys are the
destination's, in place, followed by the new ones in the order the sources first name them.
Keys that no source names keep their value, sources that are not dictionaries add nothing, and
distinct keys stay distinct. -/
theorem mergeSources_dictionary (plists : String → Except String Value) (src : List String)
    (d : List (String × Value)) :
    ∃ d', mergeSources plists src (.dictionary d) = .dictionary d' ∧
      (∀ k, getEntry? k d' = (getEntry? k (sourceEntries plists src).reverse).or (getEntry? k d)) ∧
      d'.map Prod.fst = ((sourceEntries plists src).map Prod.fst).foldl insertKey (d.map Prod.fst) ∧
      d.map Prod.fst <+: d'.map Prod.fst ∧ ((d.map Prod.fst).Nodup → (d'.map Prod.fst).Nodup) := by
  have hkeys := keys_foldl_dictInsert d (sourceEntries plists src)
  refine ⟨_, mergeSources_dictionary_eq plists src d, fun k => getEntry?_foldl_dictInsert _ _ k,
    hkeys, ?_, fun h => ?_⟩
  · rw [hkeys]; exact prefix_foldl_insertKey _ _
  · rw [hkeys]; exact nodup_foldl_insertKey h _

/-- **`merge_plist`.**  The run, by the first source that loads (`mergePlist_run`), and the
value it writes: a destination that is not a dictionary is written back as it was; a
dictionary gets, for each key, the value of the last loaded source entry naming it, and keeps
its keys in place, with the new keys after them, in the order the sources first name them, and
distinct keys distinct. -/
theorem mergePlist_spec (src : List String) (dest : String) (w : World) :
    (((∀ p ∈ src, (w.plists p).toBool = false) →
      mergePlist src dest w = .ok () (w.record (src.map .read))) ∧
    ∀ pre p post, src = pre ++ p :: post → (∀ q ∈ pre, (w.plists q).toBool = false) →
      (w.plists p).toBool = true →
      (∀ e, w.plists dest = .error e →
        mergePlist src dest w =
          .error (.error e) (w.record ((pre ++ [p]).map .read ++ [.read dest]))) ∧
      (∀ v, w.plists dest = .ok v →
        let merged := mergeSources w.plists src v
        let w' := w.record
          ((pre ++ [p]).map .read ++ .read dest :: post.map .read ++ [.write dest merged])
        mergePlist src dest w = match w.writeError dest merged with
          | some e =>
            .error (.error e) { w' with plists := Function.update w.plists dest (w.torn dest merged) }
          | none => .ok () { w' with plists := Function.update w.plists dest (.ok merged) })) ∧
    (∀ v, (∀ d, v ≠ .dictionary d) → mergeSources w.plists src v = v) ∧
    ∀ d, ∃ d', mergeSources w.plists src (.dictionary d) = .dictionary d' ∧
      (∀ k, getEntry? k d' =
        (getEntry? k (sourceEntries w.plists src).reverse).or (getEntry? k d)) ∧
      d'.map Prod.fst =
        ((sourceEntries w.plists src).map Prod.fst).foldl insertKey (d.map Prod.fst) ∧
      d.map Prod.fst <+: d'.map Prod.fst ∧ ((d.map Prod.fst).Nodup → (d'.map Prod.fst).Nodup) :=
  ⟨mergePlist_run src dest w, fun _ hv => mergeSources_of_not_dictionary _ src hv,
    mergeSources_dictionary _ src⟩

/-- A source that does not load, one that does, a destination that loads and one that does
not. -/
theorem mergePlist_spec_infoPlist :
    let w : World :=
      ⟨fun path => if path = "a.plist" then .ok (.dictionary [("CFBundleName", .string "app")])
        else if path = "Info.plist" then .ok (.dictionary []) else .error "No such file",
       fun _ _ => none, fun _ _ => .error "EOF", []⟩
    mergePlist ["b.plist"] "Info.plist" w = .ok () (w.record (["b.plist"].map .read)) ∧
    mergePlist ([] ++ ["a.plist"]) "Missing.plist" w =
      .error (.error "No such file") (w.record (([] ++ ["a.plist"]).map .read ++
        [.read "Missing.plist"])) ∧
    (let merged := mergeSources w.plists (["b.plist"] ++ ["a.plist"]) (.dictionary [])
     let w' := w.record ((["b.plist"] ++ ["a.plist"]).map .read ++ .read "Info.plist" ::
       ([] : List String).map .read ++ [.write "Info.plist" merged])
     mergePlist (["b.plist"] ++ ["a.plist"]) "Info.plist" w =
       match w.writeError "Info.plist" merged with
       | some e => .error (.error e)
         { w' with plists := Function.update w.plists "Info.plist" (w.torn "Info.plist" merged) }
       | none => .ok () { w' with plists := Function.update w.plists "Info.plist" (.ok merged) }) ∧
    mergeSources w.plists ["a.plist"] (.boolean true) = .boolean true := by
  intro w
  exact ⟨(mergePlist_spec ["b.plist"] "Info.plist" w).1.1 (by decide),
    ((mergePlist_spec _ "Missing.plist" w).1.2 [] "a.plist" [] rfl (by decide) rfl).1 _ rfl,
    ((mergePlist_spec _ "Info.plist" w).1.2 ["b.plist"] "a.plist" [] rfl (by decide) rfl).2 _
      rfl,
    (mergePlist_spec ["a.plist"] "Info.plist" w).2.1 _ nofun⟩

/-- **`merge_plist` never panics**: `expect("Info.plist not loaded")` is reached only after
the destination was loaded, so every failure is an error returned to the caller. -/
theorem mergePlist_noPanic (src : List String) (dest : String) (w : World) :
    RunNoPanic (mergePlist src dest w) := by
  obtain ⟨hnone, hsome⟩ := mergePlist_run src dest w
  cases hf : src.find? fun p => (w.plists p).toBool with
  | none => simp [hnone fun p hp => by simpa using List.find?_eq_none.mp hf p hp]
  | some p =>
    obtain ⟨hp, pre, post, hsrc, hpre⟩ := List.find?_eq_some.mp hf
    obtain ⟨herror, hok⟩ := hsome pre p post hsrc (fun q hq => by simpa using hpre q hq) hp
    cases hd : w.plists dest with
    | error e => simp [herror e hd]
    | ok v =>
      rw [hok v hd]
      split <;> simp

/-! ### Running it again -/

section Again

variable {β : Type}

/-- Inserting pairs into a dictionary whose first key is `k₀`: that entry takes the last value
given for `k₀`, and the other pairs go to the rest. -/
theorem foldl_dictInsert_cons (k₀ : String) (v₀ : β) (rest es : List (String × β)) :
    es.foldl (fun d e => dictInsert d e.1 e.2) ((k₀, v₀) :: rest) =
      (k₀, (getEntry? k₀ es.reverse).getD v₀) ::
        (es.filter (·.1 ≠ k₀)).foldl (fun d e => dictInsert d e.1 e.2) rest := by
  induction es generalizing v₀ rest with
  | nil => rfl
  | cons e es ih =>
    obtain ⟨k, v⟩ := e
    by_cases h : k₀ = k
    · subst h
      simp [dictInsert, ih, getEntry?_append, getEntry?]
      cases getEntry? k₀ es.reverse <;> rfl
    · simp [dictInsert, h, Ne.symm h, ih, getEntry?_append, getEntry?]

theorem foldl_dictInsert_nil_again : ∀ es : List (String × β),
    es.foldl (fun d e => dictInsert d e.1 e.2) (es.foldl (fun d e => dictInsert d e.1 e.2) []) =
      es.foldl (fun d e => dictInsert d e.1 e.2) []
  | [] => rfl
  | (k, v) :: es => by
    have hfilter : (((k, v) :: es).filter (·.1 ≠ k)) = es.filter (·.1 ≠ k) := by simp
    rw [show ((k, v) :: es).foldl (fun d e => dictInsert d e.1 e.2) [] =
        es.foldl (fun d e => dictInsert d e.1 e.2) [(k, v)] from rfl,
      foldl_dictInsert_cons, foldl_dictInsert_cons, hfilter,
      foldl_dictInsert_nil_again (es.filter (·.1 ≠ k)), List.reverse_cons, getEntry?_append]
    cases getEntry? k es.reverse <;> simp [getEntry?]
termination_by es => es.length
decreasing_by
  simp_wf
  exact Nat.lt_succ_of_le (List.length_filter_le _ _)

/-- **Inserting the same pairs twice changes nothing the second time.** -/
theorem foldl_dictInsert_again (d es : List (String × β)) :
    es.foldl (fun d e => dictInsert d e.1 e.2) (es.foldl (fun d e => dictInsert d e.1 e.2) d) =
      es.foldl (fun d e => dictInsert d e.1 e.2) d := by
  induction d generalizing es with
  | nil => exact foldl_dictInsert_nil_again es
  | cons e rest ih =>
    obtain ⟨k₀, v₀⟩ := e
    rw [foldl_dictInsert_cons, foldl_dictInsert_cons, ih]
    cases getEntry? k₀ es.reverse <;> rfl

end Again

theorem mergeSources_mergeSources (plists : String → Except String Value) (src : List String)
    (v : Value) : mergeSources plists src (mergeSources plists src v) = mergeSources plists src v := by
  by_cases hv : ∃ d, v = .dictionary d
  · obtain ⟨d, rfl⟩ := hv
    rw [mergeSources_dictionary_eq, mergeSources_dictionary_eq, foldl_dictInsert_again]
  · push_neg at hv
    rw [mergeSources_of_not_dictionary _ _ hv, mergeSources_of_not_dictionary _ _ hv]

theorem mergeSources_congr {plists plists' : String → Except String Value} {src : List String}
    (h : ∀ q ∈ src, plists' q = plists q) (v : Value) :
    mergeSources plists' src v = mergeSources plists src v := by
  induction src generalizing v with
  | nil => rfl
  | cons q rest ih =>
    simp only [List.mem_cons, forall_eq_or_imp] at h
    rw [mergeSources_cons, mergeSources_cons, h.1, ih h.2]

/-- **Running `merge_plist` again changes nothing.**  When the destination is not one of the
sources and a run succeeds, a second run on the files it left succeeds too and leaves every
file as it was: the destination already holds each source entry's last value, in place. -/
theorem mergePlist_again (src : List String) (dest : String) (w w₁ : World)
    (hdest : dest ∉ src) (h : mergePlist src dest w = .ok () w₁) :
    ∃ w₂, mergePlist src dest w₁ = .ok () w₂ ∧ w₂.plists = w₁.plists := by
  obtain ⟨hnone, hsome⟩ := mergePlist_run src dest w
  cases hf : src.find? fun p => (w.plists p).toBool with
  | none =>
    have hall : ∀ p ∈ src, (w.plists p).toBool = false := fun p hp => by
      simpa using List.find?_eq_none.mp hf p hp
    rw [hnone hall] at h
    injection h with _ hw₁
    subst hw₁
    exact ⟨_, (mergePlist_run src dest _).1 (by simpa using hall), rfl⟩
  | some p =>
    obtain ⟨hp, pre, post, hsrc, hpre⟩ := List.find?_eq_some.mp hf
    have hpre' : ∀ q ∈ pre, (w.plists q).toBool = false := fun q hq => by simpa using hpre q hq
    obtain ⟨herror, hok⟩ := hsome pre p post hsrc hpre' hp
    cases hd : w.plists dest with
    | error e => rw [herror e hd] at h; cases h
    | ok v =>
      have hrun := hok v hd
      simp only at hrun
      cases hw : w.writeError dest (mergeSources w.plists src v) with
      | some e => rw [hrun, hw] at h; cases h
      | none =>
        rw [hrun, hw] at h
        injection h with _ hw₁
        have hplists :
            w₁.plists = Function.update w.plists dest (.ok (mergeSources w.plists src v)) := by
          rw [← hw₁]
        have hwriteError : w₁.writeError = w.writeError := by rw [← hw₁]; simp
        -- The sources still load as before; the destination loads as the merged value.
        have hsame : ∀ q ∈ src, w₁.plists q = w.plists q := fun q hq => by
          rw [hplists]
          exact Function.update_noteq (by rintro rfl; exact hdest hq) _ _
        obtain ⟨-, hok₁⟩ := (mergePlist_run src dest w₁).2 pre p post hsrc
          (fun q hq => hsame q (hsrc ▸ List.mem_append_left _ hq) ▸ hpre' q hq)
          (hsame p (hsrc ▸ List.mem_append_right _ (List.mem_cons_self _ _)) ▸ hp)
        have hrun₁ := hok₁ (mergeSources w.plists src v)
          (by rw [hplists]; exact Function.update_same _ _ _)
        simp only [hwriteError, hw, mergeSources_congr hsame, mergeSources_mergeSources] at hrun₁
        refine ⟨_, hrun₁, ?_⟩
        rw [hplists]
        exact Function.update_idem _ _ _

/-- The files of `mergePlist_spec_infoPlist`, merged twice. -/
theorem mergePlist_again_infoPlist :
    let w : World :=
      ⟨fun path => if path = "a.plist" then .ok (.dictionary [("CFBundleName", .string "app")])
        else if path = "Info.plist" then .ok (.dictionary []) else .error "No such file",
       fun _ _ => none, fun _ _ => .error "EOF", []⟩
    let merged := mergeSources w.plists ["b.plist", "a.plist"] (.dictionary [])
    let w₁ : World :=
      { w.record (["b.plist", "a.plist"].map .read ++
          [.read "Info.plist", .write "Info.plist" merged]) with
        plists := Function.update w.plists "Info.plist" (.ok merged) }
    "Info.plist" ∉ ["b.plist", "a.plist"] ∧
      mergePlist ["b.plist", "a.plist"] "Info.plist" w = .ok () w₁ ∧
      ∃ w₂, mergePlist ["b.plist", "a.plist"] "Info.plist" w₁ = .ok () w₂ ∧
        w₂.plists = w₁.plists := by
  intro w merged w₁
  have h : mergePlist ["b.plist", "a.plist"] "Info.plist" w = .ok () w₁ :=
    ((mergePlist_run _ _ w).2 ["b.plist"] "a.plist" [] rfl (by decide) rfl).2 _ rfl
  exact ⟨by decide, h, mergePlist_again _ _ w w₁ (by decide) h⟩

end Tauri.Cli.Ios
