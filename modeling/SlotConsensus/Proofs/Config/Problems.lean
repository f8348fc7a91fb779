import SlotConsensus.Proofs.Config.Valid
import SlotConsensus.Proofs.Identity.PublicKey
import SlotConsensus.Proofs.Roster

/-! What is wrong with a configuration.  Each of its checks has a problem that it reports, and of
several problems the first one counts, which for texts that are no keys is the one that comes first.
A node is made of the configurations without a problem, and of the others nothing but that
problem. -/

namespace SlotConsensus

/-! ### The texts of keys -/

namespace Config

/-- All texts are read, and their keys stand in their order. -/
theorem decodeNodes_eq_ok_iff {index : Nat} {texts : List String} {keys : List PublicKey} :
    decodeNodes index texts = .ok keys ↔ texts.map PublicKey.ofHex = keys.map .ok := by
  induction texts generalizing index keys with
  | nil => cases keys <;> simp [decodeNodes]
  | cons text rest ih =>
    rw [decodeNodes, List.map_cons]
    cases PublicKey.ofHex text with
    | error cause => cases keys <;> simp
    | ok key =>
      simp only [map_eq_ok_iff, ih]
      cases keys with
      | nil => simp
      | cons first others =>
        constructor
        · rintro ⟨read, hread, hkeys⟩
          cases hkeys
          rw [hread, List.map_cons]
        · intro h
          obtain ⟨hfirst, hothers⟩ := List.cons.inj h
          exact ⟨others, hothers, by rw [Except.ok.inj hfirst]⟩

theorem map_ofHex_of_denotes {texts : List String} {points : List Curve.Point}
    (h : List.Forall₂ PublicKey.Denotes texts points) :
    texts.map PublicKey.ofHex = (points.map PublicKey.ofPoint).map .ok := by
  induction h with
  | nil => rfl
  | cons htext _ ih =>
    rw [List.map_cons, PublicKey.ofHex_of_denotes htext, ih, List.map_cons, List.map_cons]

theorem decodeNodes_of_bad {index : Nat} {before after : List String} {text : String}
    {cause : KeyError} (hbefore : ∀ t ∈ before, ∃ key, PublicKey.ofHex t = .ok key)
    (htext : PublicKey.ofHex text = .error cause) :
    decodeNodes index (before ++ text :: after) =
      .error (.config (.badNode (index + before.length) cause)) := by
  induction before generalizing index with
  | nil => simp only [List.nil_append, decodeNodes, htext, List.length_nil, Nat.add_zero]
  | cons t before ih =>
    obtain ⟨key, hkey⟩ := hbefore t List.mem_cons_self
    have hrest : decodeNodes (index + 1) (before ++ text :: after) = _ :=
      ih fun u hu => hbefore u (List.mem_cons_of_mem t hu)
    simp only [List.cons_append, decodeNodes, hkey, hrest, List.length_cons]
    rw [Nat.add_assoc, Nat.add_comm 1]
    rfl

theorem validators_of_bad {c : Config} {before after : List String} {text : String}
    {cause : KeyError} (hnodes : c.trustNodes = before ++ text :: after)
    (hbefore : ∀ t ∈ before, ∃ key, PublicKey.ofHex t = .ok key)
    (htext : PublicKey.ofHex text = .error cause) :
    c.validators = .error (.config (.badNode before.length cause)) := by
  rw [validators, hnodes, decodeNodes_of_bad hbefore htext, Nat.zero_add]

theorem exists_keys_or_bad (texts : List String) :
    (∃ keys : List PublicKey, texts.map PublicKey.ofHex = keys.map .ok) ∨
      ∃ before text after cause, texts = before ++ text :: after ∧
        (∀ t ∈ before, ∃ key, PublicKey.ofHex t = .ok key) ∧
        PublicKey.ofHex text = .error cause := by
  induction texts with
  | nil => exact Or.inl ⟨[], rfl⟩
  | cons t rest ih =>
    cases ht : PublicKey.ofHex t with
    | error cause => exact Or.inr ⟨[], t, rest, cause, rfl, by simp, ht⟩
    | ok key =>
      rcases ih with ⟨keys, hkeys⟩ | ⟨before, text, after, cause, rfl, hbefore, htext⟩
      · exact Or.inl ⟨key :: keys, by rw [List.map_cons, ht, hkeys, List.map_cons]⟩
      · refine Or.inr ⟨t :: before, text, after, cause, rfl, ?_, htext⟩
        intro u hu
        rcases List.mem_cons.mp hu with rfl | hu
        · exact ⟨key, ht⟩
        · exact hbefore u hu

theorem exists_keys_iff {texts : List String} :
    (∃ keys : List PublicKey, texts.map PublicKey.ofHex = keys.map .ok) ↔
      ∀ text ∈ texts, ∃ key, PublicKey.ofHex text = .ok key := by
  constructor
  · rintro ⟨keys, hkeys⟩ text htext
    have hread := List.mem_map_of_mem (f := PublicKey.ofHex) htext
    rw [hkeys] at hread
    obtain ⟨key, -, hkey⟩ := List.mem_map.mp hread
    exact ⟨key, hkey.symm⟩
  · intro hall
    rcases exists_keys_or_bad texts with hkeys | ⟨_, text, _, cause, htexts, -, hbad⟩
    · exact hkeys
    · obtain ⟨key, hkey⟩ := hall text (by simp [htexts])
      cases hbad.symm.trans hkey

/-! ### The first problem -/

/-- The epoch is one or more whole intervals. -/
structure Timed (c : Config) : Prop where
  interval_pos : 0 < c.interval.toNat
  epochLength_pos : 0 < c.epochLength.toNat
  interval_dvd : c.interval.toNat ∣ c.epochLength.toNat

/-- Nothing is wrong with the configuration. -/
structure Valid (c : Config) : Prop extends Timed c where
  maxValidators_pos : 0 < c.maxValidators.toNat
  length_le : c.trustNodes.length ≤ c.maxValidators.toNat
  nodes : ∀ text ∈ c.trustNodes, ∃ key, PublicKey.ofHex text = .ok key

/-- The first thing that is wrong with the configuration, in the order of the checks. -/
inductive FirstProblem (c : Config) : ConfigProblem → Prop
  | zeroInterval : c.interval.toNat = 0 → FirstProblem c .zeroInterval
  | raggedEpoch : 0 < c.interval.toNat →
      ¬(0 < c.epochLength.toNat ∧ c.interval.toNat ∣ c.epochLength.toNat) →
      FirstProblem c (.raggedEpoch c.epochLength c.interval)
  | noValidators : c.Timed → c.maxValidators.toNat = 0 → FirstProblem c .noValidators
  | tooManyNodes : c.Timed → 0 < c.maxValidators.toNat →
      c.maxValidators.toNat < c.trustNodes.length →
      FirstProblem c (.tooManyNodes c.trustNodes.length c.maxValidators)
  | badNode {before after : List String} {text : String} {cause : KeyError} : c.Timed →
      0 < c.maxValidators.toNat → c.trustNodes.length ≤ c.maxValidators.toNat →
      c.trustNodes = before ++ text :: after →
      (∀ t ∈ before, ∃ key, PublicKey.ofHex t = .ok key) → PublicKey.ofHex text = .error cause →
      FirstProblem c (.badNode before.length cause)

variable {c : Config}

theorem Timed.schedule (h : c.Timed) : ∃ s, c.schedule = .ok s :=
  ⟨⟨c.interval, c.epochLength, h.interval_pos, h.epochLength_pos, h.interval_dvd⟩,
    Schedule.ofLengths_eq_ok_iff.mpr ⟨rfl, rfl⟩⟩

theorem valid_or_firstProblem (c : Config) : c.Valid ∨ ∃ problem, c.FirstProblem problem := by
  rcases Nat.eq_zero_or_pos c.interval.toNat with hzero | hinterval
  · exact Or.inr ⟨_, .zeroInterval hzero⟩
  by_cases hepoch : 0 < c.epochLength.toNat ∧ c.interval.toNat ∣ c.epochLength.toNat
  swap
  · exact Or.inr ⟨_, .raggedEpoch hinterval hepoch⟩
  have htimed : c.Timed := ⟨hinterval, hepoch.1, hepoch.2⟩
  rcases Nat.eq_zero_or_pos c.maxValidators.toNat with hzero | hmax
  · exact Or.inr ⟨_, .noValidators htimed hzero⟩
  rcases Nat.lt_or_ge c.maxValidators.toNat c.trustNodes.length with hmany | hfew
  · exact Or.inr ⟨_, .tooManyNodes htimed hmax hmany⟩
  rcases exists_keys_or_bad c.trustNodes with hkeys | ⟨_, _, _, _, hnodes, hbefore, htext⟩
  · exact Or.inl ⟨htimed, hmax, hfew, exists_keys_iff.mp hkeys⟩
  · exact Or.inr ⟨_, .badNode htimed hmax hfew hnodes hbefore htext⟩

theorem FirstProblem.validate {problem : ConfigProblem} (h : c.FirstProblem problem) :
    c.validate = .error (.config problem) := by
  cases h with
  | zeroInterval hzero =>
    have hschedule : c.schedule = .error (.config .zeroInterval) := dif_pos hzero
    simp only [Config.validate, hschedule, error_bind]
  | raggedEpoch hinterval hepoch =>
    have hschedule : c.schedule = .error (.config (.raggedEpoch c.epochLength c.interval)) := by
      rw [Config.schedule, Schedule.ofLengths, dif_neg (Nat.ne_of_gt hinterval), dif_neg hepoch]
    simp only [Config.validate, hschedule, error_bind]
  | noValidators htimed hzero =>
    obtain ⟨s, hs⟩ := htimed.schedule
    have hmax : c.maxValidators = 0 := UInt64.toNat_inj.mp hzero
    simp only [Config.validate, hs, ok_bind, if_pos hmax]
    rfl
  | tooManyNodes htimed hpos hmany =>
    obtain ⟨s, hs⟩ := htimed.schedule
    have hmax : c.maxValidators ≠ 0 := fun hzero => by simp [hzero] at hpos
    simp only [Config.validate, hs, ok_bind, if_neg hmax, if_pos hmany]
    rfl
  | badNode htimed hpos hfew hnodes hbefore htext =>
    obtain ⟨s, hs⟩ := htimed.schedule
    have hmax : c.maxValidators ≠ 0 := fun hzero => by simp [hzero] at hpos
    have hkeys := validators_of_bad hnodes hbefore htext
    simp only [Config.validate, hs, ok_bind, if_neg hmax, if_neg (Nat.not_lt.mpr hfew), hkeys]
    rfl

theorem validate_eq_ok_iff_valid : c.validate = .ok () ↔ c.Valid := by
  constructor
  · intro hok
    rcases valid_or_firstProblem c with hvalid | ⟨problem, hproblem⟩
    · exact hvalid
    · cases hproblem.validate.symm.trans hok
  · intro hvalid
    obtain ⟨keys, hkeys⟩ := exists_keys_iff.mpr hvalid.nodes
    refine validate_eq_ok_iff.mpr ⟨hvalid.schedule, ?_, hvalid.length_le, keys,
      decodeNodes_eq_ok_iff.mpr hkeys⟩
    intro hzero
    have hpos := hvalid.maxValidators_pos
    simp [hzero] at hpos

theorem validate_eq_error_iff {e : ConsensusError} :
    c.validate = .error e ↔ ∃ problem, c.FirstProblem problem ∧ e = .config problem := by
  constructor
  · intro herror
    rcases valid_or_firstProblem c with hvalid | ⟨problem, hproblem⟩
    · cases (validate_eq_ok_iff_valid.mpr hvalid).symm.trans herror
    · exact ⟨problem, hproblem, Except.error.inj (herror.symm.trans hproblem.validate)⟩
  · rintro ⟨problem, hproblem, rfl⟩
    exact hproblem.validate

end Config

/-! ### The node of a configuration -/

namespace Node

/-- The node has the lengths of the configuration, the given identity, and of the keys that the
texts of the configuration stand for each one at its first place. -/
structure Fulfils (n : Node) (c : Config) (signer : PublicKey) : Prop where
  interval : n.schedule.interval = c.interval
  epochLength : n.schedule.epochLength = c.epochLength
  signer : n.signer = signer
  members : ∃ keys : List PublicKey, c.trustNodes.map PublicKey.ofHex = keys.map .ok ∧
    n.roster.members = (keys.zipIdx.filter fun (k, i) => k ∉ keys.take i).map Prod.fst
  validators : n.roster.validators =
    if c.trustNodes = [] then .error .emptyRoster else .ok n.roster.members
  size_le : n.roster.size ≤ c.maxValidators.toNat

variable {c : Config} {signer : PublicKey}

theorem fulfils_of_ofConfig {n : Node} (h : ofConfig c signer = .ok n) :
    n.Fulfils c signer := by
  obtain ⟨hok, s, keys, hs, hkeys, rfl⟩ := ofConfig_eq_ok_iff.mp h
  obtain ⟨hinterval, hepoch⟩ := Schedule.ofLengths_eq_ok_iff.mp hs
  have hread := Config.decodeNodes_eq_ok_iff.mp hkeys
  have hlength : c.trustNodes.length = keys.length := by simpa using congrArg List.length hread
  have hvalid := Config.validate_eq_ok_iff_valid.mp hok
  refine ⟨hinterval, hepoch, rfl, ⟨keys, hread, firsts_eq_filter keys⟩, ?_, ?_⟩
  · have hempty : keys = [] ↔ c.trustNodes = [] := by
      rw [← List.length_eq_zero_iff, ← hlength, List.length_eq_zero_iff]
    simp only [setRoster, Roster.validators_ofList, hempty]
    rfl
  · have hle := length_firsts_le keys
    have hfits := hvalid.length_le
    show (firsts keys).length ≤ c.maxValidators.toNat
    omega

theorem ofConfig_eq_error_iff {e : ConsensusError} :
    ofConfig c signer = .error e ↔ c.validate = .error e := by
  cases hvalidate : c.validate with
  | error cause => rw [ofConfig, hvalidate, error_bind, Except.error.injEq, Except.error.injEq]
  | ok u =>
    obtain ⟨⟨s, hs⟩, -, -, keys, hkeys⟩ := Config.validate_eq_ok_iff.mp hvalidate
    rw [ofConfig_eq_ok_iff.mpr ⟨hvalidate, s, keys, hs, hkeys, rfl⟩]
    simp

/-- A configuration is accepted when nothing is wrong with it, and otherwise refused for the first
thing that is.  A node is made of exactly the accepted ones, and of the others nothing but the same
error.  It is what the configuration says, whose keys are equal or not whatever their texts are. -/
theorem ofConfig_agrees_with_validate (c : Config) (signer : PublicKey) :
    (c.validate = .ok () ↔ c.Valid) ∧
    (∀ e, c.validate = .error e ↔ ∃ problem, c.FirstProblem problem ∧ e = .config problem) ∧
    ((∃ n, ofConfig c signer = .ok n) ↔ c.validate = .ok ()) ∧
    (∀ e, ofConfig c signer = .error e ↔ c.validate = .error e) ∧
    ∀ n, ofConfig c signer = .ok n → n.Fulfils c signer := by
  refine ⟨Config.validate_eq_ok_iff_valid, fun e => Config.validate_eq_error_iff, ?_,
    fun e => ofConfig_eq_error_iff, fun n => fulfils_of_ofConfig⟩
  constructor
  · rintro ⟨n, hn⟩
    exact (ofConfig_eq_ok_iff.mp hn).1
  · intro hok
    obtain ⟨⟨s, hs⟩, -, -, keys, hkeys⟩ := Config.validate_eq_ok_iff.mp hok
    exact ⟨_, ofConfig_eq_ok_iff.mpr ⟨hok, s, keys, hs, hkeys, rfl⟩⟩

/-- The base point as a text three times: in small letters, in capitals after a mark, and in the
long form. -/
def respelled : Config where
  interval := 10
  epochLength := 60
  maxValidators := 3
  trustNodes := ["0279be667ef9dcbbac55a06295ce870b07029bfcdb2dce28d959f2815b16f81798",
    "0x0279BE667EF9DCBBAC55A06295CE870B07029BFCDB2DCE28D959F2815B16F81798",
    "0479be667ef9dcbbac55a06295ce870b07029bfcdb2dce28d959f2815b16f81798" ++
      "483ada7726a3c4655da4fbfc0e1108a8fd17b448a68554199c47d08ffb10d4b8"]

theorem denotes_respelled :
    List.Forall₂ PublicKey.Denotes respelled.trustNodes [.base, .base, .base] := by
  refine .cons ⟨rfl, _, .inl rfl, ?_⟩ (.cons ⟨rfl, _, .inl rfl, ?_⟩
    (.cons ⟨rfl, _, .inr rfl, ?_⟩ .nil))
  · rw [String.toList_ofList]
    decide
  · rw [String.toList_ofList]
    decide
  · rw [PublicKey.toList_ofList_append]
    decide

/-- Three texts of one key make a roster of one. -/
theorem ofConfig_agrees_with_validate_respelled :
    ∃ n, ofConfig respelled (.ofPoint .base) = .ok n ∧
      n.roster.members = [.ofPoint .base] := by
  have hread := Config.map_ofHex_of_denotes denotes_respelled
  obtain ⟨hvalid, -, hmade, -, hfulfils⟩ :=
    ofConfig_agrees_with_validate respelled (.ofPoint .base)
  have hok : respelled.Valid :=
    ⟨⟨by decide, by decide, by decide⟩, by decide, by decide,
      Config.exists_keys_iff.mp ⟨_, hread⟩⟩
  obtain ⟨n, hn⟩ := hmade.mpr (hvalid.mpr hok)
  obtain ⟨keys, hkeys, hmembers⟩ := (hfulfils n hn).members
  have hsame : keys = [.ofPoint .base, .ofPoint .base, .ofPoint .base] :=
    List.map_injective_iff.mpr (fun _ _ => Except.ok.inj) (hkeys.symm.trans hread)
  rw [hsame] at hmembers
  exact ⟨n, hn, hmembers.trans (by decide)⟩

end Node

end SlotConsensus
