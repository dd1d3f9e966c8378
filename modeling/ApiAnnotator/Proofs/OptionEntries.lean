import ApiAnnotator.Proofs.JoinedParts
import ApiAnnotator.Proofs.Outcome
import ApiAnnotator.Proofs.Records
import ApiAnnotator.Proofs.StableSort
import Mathlib

/-!
# Options are judged entry by entry

An entry of the options is valid or not whatever the other entries are, so a list is valid if each
of its entries is, and otherwise the first one that is not gives the error.

A valid entry either sets the one option that belongs to its key or adds a package. What an option
is in the end depends only on the last entry with its key, and the packages are brought into the
order of their aliases. So an entry that is set again later may be left out, and if all keys differ
the order of the entries does not matter at all.

## Main definitions

* `OptionKey`, `Options.get`, `Options.set` — options by key.
* `package?`, `isPackageKey` — the entries that add packages.
* `Options.Makes` — what the options of a valid list are.

## Main statements

* `Options.exists_of_change` — what a valid entry does.
* `Options.get_foldl`, `Options.externPackages_foldl` — what valid entries do one after the other.
* `Options.judged_entry_by_entry` — **options are judged entry by entry, and the last entry with a
  key counts**.
-/

namespace ApiAnnotator

open Text

/-! ## Options by key -/

/-- The keys that belong to an option; the keys of packages are not among them. -/
inductive OptionKey where
  | packageNameOverride
  | modulePath
  | perServiceFeatures
  | defaultFeatures
  | includeGrpcOnlyMethods
  | generateSetterSamples
  | generateRpcSamples
  | bytesAlphabet
  | templateOverride
  | version
  | copyrightYear
  | nameOverrides
  | internalTypes
  | serviceAdvisoryThreshold
  deriving DecidableEq

namespace OptionKey

/-- The text of a key. -/
def name : OptionKey → String
  | packageNameOverride => "package-name-override"
  | modulePath => "module-path"
  | perServiceFeatures => "per-service-features"
  | defaultFeatures => "default-features"
  | includeGrpcOnlyMethods => "include-grpc-only-methods"
  | generateSetterSamples => "generate-setter-samples"
  | generateRpcSamples => "generate-rpc-samples"
  | bytesAlphabet => "bytes-alphabet"
  | templateOverride => "template-override"
  | version => "version"
  | copyrightYear => "copyright-year"
  | nameOverrides => "name-overrides"
  | internalTypes => "internal-types"
  | serviceAdvisoryThreshold => "service-advisory-threshold"

/-- What the option of a key is. -/
def Value : OptionKey → Type
  | packageNameOverride | templateOverride | version | copyrightYear => Option String
  | modulePath => String
  | perServiceFeatures | includeGrpcOnlyMethods | generateSetterSamples | generateRpcSamples => Bool
  | defaultFeatures => Option (List String)
  | bytesAlphabet => BytesAlphabet
  | nameOverrides => Table String
  | internalTypes => Names
  | serviceAdvisoryThreshold => Nat

theorem name_injective : Function.Injective name := by
  intro key key' h
  cases key <;> cases key' <;> first | rfl | exact absurd h (by decide)

/-- No key of an option is the key of a package. -/
theorem afterPrefix?_name (key : OptionKey) : afterPrefix? "package:" key.name = none := by
  cases key <;> decide

end OptionKey

namespace Options

/-- The option of a key. -/
def get (o : Options) : (key : OptionKey) → key.Value
  | .packageNameOverride => o.packageNameOverride
  | .modulePath => o.modulePath
  | .perServiceFeatures => o.perServiceFeatures
  | .defaultFeatures => o.defaultFeatures
  | .includeGrpcOnlyMethods => o.includeGrpcOnlyMethods
  | .generateSetterSamples => o.generateSetterSamples
  | .generateRpcSamples => o.generateRpcSamples
  | .bytesAlphabet => o.bytesAlphabet
  | .templateOverride => o.templateOverride
  | .version => o.version
  | .copyrightYear => o.copyrightYear
  | .nameOverrides => o.nameOverrides
  | .internalTypes => o.internalTypes
  | .serviceAdvisoryThreshold => o.serviceAdvisoryThreshold

/-- The options with the given values and packages. -/
def ofValues (value : (key : OptionKey) → key.Value) (packages : List ExternPackage) : Options where
  packageNameOverride := value .packageNameOverride
  modulePath := value .modulePath
  perServiceFeatures := value .perServiceFeatures
  defaultFeatures := value .defaultFeatures
  includeGrpcOnlyMethods := value .includeGrpcOnlyMethods
  generateSetterSamples := value .generateSetterSamples
  generateRpcSamples := value .generateRpcSamples
  bytesAlphabet := value .bytesAlphabet
  templateOverride := value .templateOverride
  version := value .version
  copyrightYear := value .copyrightYear
  nameOverrides := value .nameOverrides
  internalTypes := value .internalTypes
  serviceAdvisoryThreshold := value .serviceAdvisoryThreshold
  externPackages := packages

/-- The options with one of them changed. -/
def set (o : Options) (key : OptionKey) (value : key.Value) : Options :=
  ofValues (Function.update o.get key value) o.externPackages

/-- The options with one more package. -/
def addPackage (o : Options) (package : ExternPackage) : Options :=
  { o with externPackages := o.externPackages ++ [package] }

variable {o o' : Options}

@[simp] theorem get_ofValues (value : (key : OptionKey) → key.Value)
    (packages : List ExternPackage) : (ofValues value packages).get = value := by
  funext key
  cases key <;> rfl

@[simp] theorem get_set (o : Options) (key : OptionKey) (value : key.Value) :
    (o.set key value).get = Function.update o.get key value :=
  get_ofValues _ _

@[simp] theorem externPackages_set (o : Options) (key : OptionKey) (value : key.Value) :
    (o.set key value).externPackages = o.externPackages := rfl

@[simp] theorem get_addPackage (o : Options) (package : ExternPackage) :
    (o.addPackage package).get = o.get := by
  funext key
  cases key <;> rfl

@[simp] theorem externPackages_addPackage (o : Options) (package : ExternPackage) :
    (o.addPackage package).externPackages = o.externPackages ++ [package] := rfl

@[simp] theorem get_sortPackages (o : Options) : o.sortPackages.get = o.get := by
  funext key
  cases key <;> rfl

/-- Options are their values by key and the packages. -/
theorem eq_of_get_eq (hget : o.get = o'.get) (hpackages : o.externPackages = o'.externPackages) :
    o = o' :=
  calc o
    _ = ofValues o.get o.externPackages := rfl
    _ = ofValues o'.get o'.externPackages := by rw [hget, hpackages]
    _ = o' := rfl

end Options

/-! ## What an entry does -/

/-- Whether a key is that of a package. -/
def isPackageKey (key : String) : Bool :=
  (afterPrefix? "package:" key).isSome

/-- The package that an entry adds, if it adds one. -/
def package? (entry : String × String) : Option ExternPackage := do
  let aliasName ← afterPrefix? "package:" entry.1
  (parsePackage aliasName entry.2).toOption

theorem aliasName_of_parsePackage {aliasName text : String} {package : ExternPackage}
    (h : parsePackage aliasName text = .ok package) : package.aliasName = aliasName := by
  unfold parsePackage at h
  split at h
  · cases h
  · obtain ⟨parts, -, hfinish⟩ := except_bind_eq_ok_iff.1 h
    unfold PackageParts.finish at hfinish
    split at hfinish
    · cases hfinish
    · split at hfinish
      · cases hfinish
      · obtain rfl := Except.ok.inj hfinish
        rfl

/-- The package that an entry adds is that of its text, under the alias in its key. -/
theorem package?_eq_some_iff {entry : String × String} {package : ExternPackage} :
    package? entry = some package ↔ entry.1 = "package:" ++ package.aliasName ∧
      parsePackage package.aliasName entry.2 = .ok package := by
  have htoOption : ∀ {x : Except String ExternPackage},
      x.toOption = some package ↔ x = .ok package := by
    intro x
    cases x <;> simp [Except.toOption]
  simp only [package?, Option.bind_eq_bind, Option.bind_eq_some_iff, afterPrefix?_eq_some_iff,
    htoOption]
  constructor
  · rintro ⟨aliasName, hkey, hpackage⟩
    rw [aliasName_of_parsePackage hpackage]
    exact ⟨hkey, hpackage⟩
  · rintro ⟨hkey, hpackage⟩
    exact ⟨package.aliasName, hkey, hpackage⟩

theorem package?_name (key : OptionKey) (text : String) : package? (key.name, text) = none := by
  simp [package?, key.afterPrefix?_name]

namespace Options

variable {key text : String} {c : Options → Options} {e : String × String}
  {entries entries' : List (String × String)} {changes : List (Options → Options)} {o o' : Options}

/-- A valid entry with the key of an option sets that option. -/
theorem exists_set_of_change {key : OptionKey} (h : change key.name text = .ok c) :
    ∃ value, ∀ o, c o = o.set key value := by
  unfold change at h
  rw [key.afterPrefix?_name] at h
  cases key <;> simp only [OptionKey.name] at h
  case packageNameOverride | modulePath | defaultFeatures | templateOverride | version |
      copyrightYear | internalTypes =>
    -- any text will do
    obtain rfl := Except.ok.inj h
    exact ⟨_, fun _ => rfl⟩
  all_goals
    obtain ⟨_, -, hc⟩ := except_bind_eq_ok_iff.1 h
    obtain rfl := Except.ok.inj hc
    exact ⟨_, fun _ => rfl⟩

/-- A valid entry that adds no package has the key of an option. -/
theorem exists_name_of_change (hpackage : afterPrefix? "package:" key = none)
    (h : change key text = .ok c) : ∃ k : OptionKey, key = k.name := by
  unfold change at h
  rw [hpackage] at h
  dsimp only at h
  split at h
  exacts [⟨.packageNameOverride, rfl⟩, ⟨.modulePath, rfl⟩, ⟨.perServiceFeatures, rfl⟩,
    ⟨.defaultFeatures, rfl⟩, ⟨.includeGrpcOnlyMethods, rfl⟩, ⟨.generateSetterSamples, rfl⟩,
    ⟨.generateRpcSamples, rfl⟩, ⟨.bytesAlphabet, rfl⟩, ⟨.templateOverride, rfl⟩, ⟨.version, rfl⟩,
    ⟨.copyrightYear, rfl⟩, ⟨.nameOverrides, rfl⟩, ⟨.internalTypes, rfl⟩,
    ⟨.serviceAdvisoryThreshold, rfl⟩, nomatch h]

/-- **What a valid entry does**: it adds the package of its key and text, or it sets the option of
its key. -/
theorem exists_of_change (h : change key text = .ok c) :
    (∃ package, package? (key, text) = some package ∧ ∀ o, c o = o.addPackage package) ∨
    ∃ k : OptionKey, key = k.name ∧ ∃ value, ∀ o, c o = o.set k value := by
  cases hlead : afterPrefix? "package:" key with
  | none =>
      obtain ⟨k, rfl⟩ := exists_name_of_change hlead h
      exact .inr ⟨k, rfl, exists_set_of_change h⟩
  | some aliasName =>
      unfold change at h
      rw [hlead] at h
      obtain ⟨package, hpackage, hc⟩ := except_bind_eq_ok_iff.1 h
      rw [except_mapError_eq_ok_iff] at hpackage
      obtain rfl := Except.ok.inj hc
      refine .inl ⟨package, package?_eq_some_iff.2 ?_, fun o => rfl⟩
      rw [aliasName_of_parsePackage hpackage]
      exact ⟨afterPrefix?_eq_some_iff.1 hlead, hpackage⟩

/-- The option of a key after an entry alone. -/
def valueOf (key : OptionKey) (e : String × String) : key.Value :=
  match change e.1 e.2 with
  | .ok c => (c {}).get key
  | .error _ => ({} : Options).get key

/-- A valid entry leaves the options of all other keys alone. -/
theorem get_of_change (h : change e.1 e.2 = .ok c) (o : Options) (key : OptionKey) :
    (c o).get key = if e.1 = key.name then valueOf key e else o.get key := by
  have hvalue : valueOf key e = (c {}).get key := by rw [valueOf, h]
  rcases exists_of_change h with ⟨package, hpackage, hc⟩ | ⟨k, hk, value, hc⟩
  · have hne : e.1 ≠ key.name := by
      intro heq
      rw [← Prod.eta e, heq, package?_name] at hpackage
      cases hpackage
    rw [if_neg hne, hc, get_addPackage]
  · rw [hvalue, hc, hc, get_set, get_set, hk]
    by_cases heq : k = key
    · subst heq
      rw [if_pos rfl, Function.update_self, Function.update_self]
    · rw [if_neg fun hname => heq (OptionKey.name_injective hname),
        Function.update_of_ne (Ne.symm heq)]

/-- A valid entry adds its package to the others, if it has one. -/
theorem externPackages_of_change (h : change e.1 e.2 = .ok c) (o : Options) :
    (c o).externPackages = o.externPackages ++ (package? e).toList := by
  rcases exists_of_change h with ⟨package, hpackage, hc⟩ | ⟨k, hk, value, hc⟩
  · rw [hc, externPackages_addPackage, hpackage, Option.toList_some]
  · rw [hc, externPackages_set, ← Prod.eta e, hk, package?_name, Option.toList_none,
      List.append_nil]

/-! ## What entries do one after the other -/

/-- **An option is what the last entry with its key makes of it.** -/
theorem get_foldl (h : List.Forall₂ (fun e c => change e.1 e.2 = .ok c) entries changes)
    (o : Options) (key : OptionKey) :
    (changes.foldl (fun o change => change o) o).get key =
      ((lastWith? Prod.fst key.name entries).map (valueOf key)).getD (o.get key) := by
  induction h generalizing o with
  | nil => rfl
  | @cons e c entries changes he _ ih =>
      rw [List.foldl_cons, ih, get_of_change he, lastWith?_cons]
      by_cases hkey : e.1 = key.name
      · cases lastWith? Prod.fst key.name entries <;> simp [hkey]
      · simp [hkey]

/-- **Packages are added in the order of their entries.** -/
theorem externPackages_foldl (h : List.Forall₂ (fun e c => change e.1 e.2 = .ok c) entries changes)
    (o : Options) : (changes.foldl (fun o change => change o) o).externPackages =
      o.externPackages ++ entries.filterMap package? := by
  induction h generalizing o with
  | nil => simp
  | @cons e c entries changes he _ ih =>
      rw [List.foldl_cons, ih, externPackages_of_change he, List.append_assoc,
        List.filterMap_cons]
      cases package? e <;> rfl

theorem ofEntries_eq_ok_iff : ofEntries entries = .ok o ↔
    ∃ changes, List.Forall₂ (fun e c => change e.1 e.2 = .ok c) entries changes ∧
      (changes.foldl (fun o change => change o) ({} : Options)).sortPackages = o := by
  simp only [ofEntries, except_bind_eq_ok_iff, except_mapM_eq_ok_iff, pure, Except.pure,
    Except.ok.injEq]

/-- The error is that of the first entry that is not valid. -/
theorem ofEntries_eq_error_iff {problem : OptionError} : ofEntries entries = .error problem ↔
    ∃ before e after, entries = before ++ e :: after ∧
      (∀ e' ∈ before, ∃ c, change e'.1 e'.2 = .ok c) ∧ change e.1 e.2 = .error problem := by
  rw [ofEntries, except_bind_eq_error_iff, except_mapM_eq_error_iff]
  refine or_iff_left ?_
  rintro ⟨changes, -, hpure⟩
  cases hpure

/-- A list of entries is valid if each entry can be made a change. -/
theorem exists_ofEntries_eq_ok_iff :
    (∃ o, ofEntries entries = .ok o) ↔ ∀ e ∈ entries, ∃ c, change e.1 e.2 = .ok c := by
  constructor
  · rintro ⟨o, h⟩ e he
    obtain ⟨changes, hchanges, -⟩ := ofEntries_eq_ok_iff.1 h
    obtain ⟨c, -, hc⟩ := exists_mem_of_forall₂ hchanges.flip he
    exact ⟨c, hc⟩
  · intro h
    cases hall : ofEntries entries with
    | ok o => exact ⟨o, rfl⟩
    | error problem =>
        obtain ⟨before, e, after, rfl, -, he⟩ := ofEntries_eq_error_iff.1 hall
        obtain ⟨c, hc⟩ := h e (by simp)
        rw [he] at hc
        cases hc

/-- An entry alone is valid if it can be made a change. -/
theorem exists_ofEntries_singleton_iff :
    (∃ o, ofEntries [e] = .ok o) ↔ ∃ c, change e.1 e.2 = .ok c := by
  simp [exists_ofEntries_eq_ok_iff]

theorem ofEntries_singleton_eq_error_iff {problem : OptionError} :
    ofEntries [e] = .error problem ↔ change e.1 e.2 = .error problem := by
  rw [ofEntries_eq_error_iff]
  constructor
  · rintro ⟨before, e', after, hsplit, -, he⟩
    cases before with
    | nil =>
        obtain ⟨rfl, -⟩ := List.cons.inj hsplit
        exact he
    | cons first before => simp at hsplit
  · exact fun he => ⟨[], e, [], rfl, by simp, he⟩

theorem get_ofEntries (h : ofEntries entries = .ok o) (key : OptionKey) :
    o.get key = ((lastWith? Prod.fst key.name entries).map (valueOf key)).getD
      (({} : Options).get key) := by
  obtain ⟨changes, hchanges, rfl⟩ := ofEntries_eq_ok_iff.1 h
  rw [get_sortPackages, get_foldl hchanges]

/-- The packages are those of the entries, stably sorted by their aliases. -/
theorem isStableSort_externPackages (h : ofEntries entries = .ok o) :
    IsStableSort ExternPackage.aliasName (entries.filterMap package?) o.externPackages := by
  obtain ⟨changes, hchanges, rfl⟩ := ofEntries_eq_ok_iff.1 h
  have hpackages := externPackages_foldl hchanges {}
  rw [List.nil_append] at hpackages
  rw [← hpackages]
  exact isStableSort_mergeSort _ _

/-- Only the last entries of the keys and the order of the packages matter. -/
theorem ofEntries_congr (h : ofEntries entries = .ok o) (h' : ofEntries entries' = .ok o')
    (hlast : ∀ key : OptionKey,
      lastWith? Prod.fst key.name entries = lastWith? Prod.fst key.name entries')
    (hpackages : o.externPackages = o'.externPackages) : o = o' := by
  refine eq_of_get_eq (funext fun key => ?_) hpackages
  rw [get_ofEntries h, get_ofEntries h', hlast]

/-- Every valid entry with the key of a package adds one. -/
theorem isSome_package?_of_change (h : change e.1 e.2 = .ok c) (hkey : isPackageKey e.1 = true) :
    (package? e).isSome = true := by
  rcases exists_of_change h with ⟨package, hpackage, -⟩ | ⟨k, hk, -⟩
  · rw [hpackage, Option.isSome_some]
  · rw [hk, isPackageKey, k.afterPrefix?_name] at hkey
    cases hkey

/-- An entry is not needed if its key comes again later and is not that of a package. -/
theorem ofEntries_eq_ok_of_again {before after : List (String × String)}
    (h : ofEntries (before ++ (key, text) :: after) = .ok o) (hkey : isPackageKey key = false)
    (hagain : key ∈ after.map Prod.fst) : ofEntries (before ++ after) = .ok o := by
  have hvalid := exists_ofEntries_eq_ok_iff.1 ⟨o, h⟩
  obtain ⟨o', h'⟩ := exists_ofEntries_eq_ok_iff.2 fun e (he : e ∈ before ++ after) =>
    hvalid e (by rw [List.mem_append] at he; simpa using he.imp_right .inr)
  have hnone : package? (key, text) = none := by
    rw [isPackageKey, Option.isSome_eq_false_iff, Option.isNone_iff_eq_none] at hkey
    simp [package?, hkey]
  have hpackages : o.externPackages = o'.externPackages := by
    have hsort := isStableSort_externPackages h
    rw [List.filterMap_append, List.filterMap_cons_none hnone, ← List.filterMap_append] at hsort
    exact hsort.eq (isStableSort_externPackages h')
  have hlast : ∀ k : OptionKey, lastWith? Prod.fst k.name (before ++ (key, text) :: after) =
      lastWith? Prod.fst k.name (before ++ after) := by
    intro k
    rw [lastWith?_append, lastWith?_append, lastWith?_cons]
    by_cases hk : key = k.name
    · -- a later entry counts
      obtain ⟨e, he⟩ := Option.isSome_iff_exists.1 (isSome_lastWith?_iff.2 (hk ▸ hagain))
      rw [he, Option.some_or]
    · rw [if_neg hk, Option.or_none]
  rw [h', ofEntries_congr h h' hlast hpackages]

/-- The packages of entries with distinct keys have distinct aliases. -/
theorem nodup_aliasNames (hkeys : (entries.map Prod.fst).Nodup) :
    ((entries.filterMap package?).map (·.aliasName)).Nodup := by
  refine List.pairwise_map.2 ((List.pairwise_map.1 hkeys).filterMap _ ?_)
  intro e e' hne package hpackage package' hpackage' hsame
  refine hne ?_
  rw [(package?_eq_some_iff.1 hpackage).1, (package?_eq_some_iff.1 hpackage').1, hsame]

/-- If all keys differ, the order of the entries does not matter. -/
theorem ofEntries_eq_ok_of_perm (h : ofEntries entries = .ok o)
    (hkeys : (entries.map Prod.fst).Nodup) (hperm : entries'.Perm entries) :
    ofEntries entries' = .ok o := by
  have hvalid := exists_ofEntries_eq_ok_iff.1 ⟨o, h⟩
  obtain ⟨o', h'⟩ := exists_ofEntries_eq_ok_iff.2 fun e he => hvalid e (hperm.subset he)
  have hpackages : o.externPackages = o'.externPackages :=
    (isStableSort_externPackages h).eq_of_perm (isStableSort_externPackages h')
      (hperm.symm.filterMap package?) (nodup_aliasNames hkeys)
  rw [h', ofEntries_congr h h' (fun k => lastWith?_perm hperm.symm hkeys) hpackages]

/-- What the options of a valid list of entries are. -/
structure Makes (entries : List (String × String)) (o : Options) : Prop where
  /-- An entry may be left out if it sets an option that is set again later. -/
  of_again : ∀ before key text after, entries = before ++ (key, text) :: after →
    isPackageKey key = false → key ∈ after.map Prod.fst → ofEntries (before ++ after) = .ok o
  /-- Every entry with the key of a package adds one. -/
  isSome_package? : ∀ e ∈ entries, isPackageKey e.1 = true → (package? e).isSome = true
  externPackages : IsStableSort ExternPackage.aliasName (entries.filterMap package?)
    o.externPackages
  /-- If all keys differ, every other order of the entries gives the same. -/
  of_perm : (entries.map Prod.fst).Nodup →
    ∀ entries' : List (String × String), entries'.Perm entries → ofEntries entries' = .ok o

/-- **Options are judged entry by entry, and the last entry with a key counts.** A list of entries
is valid exactly if each entry alone is; otherwise the error is that of the first entry that is not
valid alone. In a valid list an entry that sets an option may be left out if the option is set again
later, the packages are those of the entries, stably sorted by their aliases, and if all keys differ
every order of the entries gives the same options. -/
theorem judged_entry_by_entry (entries : List (String × String)) :
    ((∃ o, ofEntries entries = .ok o) ↔ ∀ e ∈ entries, ∃ o, ofEntries [e] = .ok o) ∧
    (∀ problem, ofEntries entries = .error problem ↔
      ∃ before e after, entries = before ++ e :: after ∧
        (∀ e' ∈ before, ∃ o, ofEntries [e'] = .ok o) ∧ ofEntries [e] = .error problem) ∧
    ∀ o, ofEntries entries = .ok o → Makes entries o := by
  refine ⟨?_, fun problem => ?_, fun o h => ?_⟩
  · simp only [exists_ofEntries_singleton_iff, exists_ofEntries_eq_ok_iff]
  · rw [ofEntries_eq_error_iff]
    simp only [exists_ofEntries_singleton_iff, ofEntries_singleton_eq_error_iff]
  · refine ⟨?_, fun e he => ?_, isStableSort_externPackages h, ?_⟩
    · rintro before key text after rfl
      exact ofEntries_eq_ok_of_again h
    · obtain ⟨c, hc⟩ := exists_ofEntries_eq_ok_iff.1 ⟨o, h⟩ e he
      exact isSome_package?_of_change hc
    · exact fun hkeys entries' => ofEntries_eq_ok_of_perm h hkeys

/-- The second version counts, the packages may come in any order and are sorted by their aliases,
and of two errors the first one is reported. -/
theorem judged_with_two_versions :
    let entries := [("package:wkt", "package=wkt,source=a"), ("version", "2"),
      ("package:gtype", "package=gtype,source=b")]
    (∃ o, ofEntries (("version", "1") :: entries) = .ok o ∧ o.version = some "2" ∧
      o.externPackages = [⟨"gtype", "gtype", ["b"], none⟩, ⟨"wkt", "wkt", ["a"], none⟩] ∧
      ofEntries entries = .ok o ∧ ofEntries entries.reverse = .ok o) ∧
    ofEntries [("version", "1"), ("bytes-alphabet", "base32"), ("colour", "red")] =
      .error (.invalidValue "bytes-alphabet" "base32") := by
  intro entries
  have hvalid : ∀ e ∈ ("version", "1") :: entries, ∃ o, ofEntries [e] = .ok o := by
    simp only [exists_ofEntries_singleton_iff, entries, List.forall_mem_cons]
    exact ⟨⟨_, rfl⟩, ⟨_, rfl⟩, ⟨_, rfl⟩, ⟨_, rfl⟩, by simp⟩
  obtain ⟨hiff, -, hmakes⟩ := judged_entry_by_entry (("version", "1") :: entries)
  obtain ⟨o, h⟩ := hiff.2 hvalid
  have hversion : o.version = some "2" := get_ofEntries h .version
  have hpackages : o.externPackages =
      [⟨"gtype", "gtype", ["b"], none⟩, ⟨"wkt", "wkt", ["a"], none⟩] :=
    ((hmakes o h).externPackages.eq (isStableSort_mergeSort _ _)).trans (by cbv)
  have hrest : ofEntries entries = .ok o :=
    (hmakes o h).of_again [] "version" "1" entries rfl (by decide) (by decide)
  refine ⟨⟨o, h, hversion, hpackages, hrest, ?_⟩, ?_⟩
  · exact ((judged_entry_by_entry entries).2.2 o hrest).of_perm (by decide) _ (List.reverse_perm _)
  · refine ((judged_entry_by_entry _).2.1 _).2
      ⟨[("version", "1")], ("bytes-alphabet", "base32"), _, rfl, ?_, ?_⟩
    · exact List.forall_mem_singleton.2 (hvalid _ List.mem_cons_self)
    · exact ofEntries_singleton_eq_error_iff.2 rfl

end Options

end ApiAnnotator
