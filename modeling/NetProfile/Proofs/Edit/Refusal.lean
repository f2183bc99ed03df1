import NetProfile.Proofs.Edit.Effect
import NetProfile.Proofs.Reading.Blame

/-!
Operations without a plan. Their error lies in the text or says that the property may not be
changed; it belongs to no property yet, so the edit attaches it to its own.
-/

namespace NetProfile

inductive Error.OfPlan : Error → Prop
  | text {error : Error} (ofText : error.OfText) : OfPlan error
  | immutable (fault : Fault) : OfPlan { cause := .immutable fault }

namespace Error.OfPlan

theorem property?_withProperty {error : Error} (ofPlan : error.OfPlan) {name : String} (named : name ≠ "") :
    (error.withProperty name).property? = some name := by
  cases ofPlan with
  | text ofText => cases ofText <;> simp [withProperty, named, Cause.isLocal, property?, invalid,
      outOfRange, notANumber, ambiguous, incomplete]
  | immutable fault => simp [withProperty, named, Cause.isLocal, property?]

theorem cause_ne_refused {error : Error} (ofPlan : error.OfPlan) (name : String) (fault : Fault) :
    (error.withProperty name).cause ≠ .refused fault := by
  cases ofPlan with
  | text ofText =>
    cases ofText <;> unfold withProperty <;> split <;>
      simp [invalid, outOfRange, notANumber, ambiguous, incomplete]
  | immutable other => unfold withProperty; split <;> simp

end Error.OfPlan

namespace Plan

variable {context : Context} {property : Property} {profile : Profile} {text : String}

theorem blamesText_settingScalar (property : Property) {scalar : Scalar} (sound : scalar.Sound)
    (profile : Profile) (text : String) : BlamesText (settingScalar property scalar profile text) := by
  unfold settingScalar
  refine .bind (scalar.blamesText_parse sound text) fun _ => ?_
  simp

theorem blamesText_guessKeyType (stored : WepKeyType) (key : String) :
    BlamesText (guessKeyType stored key) := by
  unfold guessKeyType
  simp only
  split
  · simp
  · split
    · simp
    · split <;> simp

theorem blamesText_settingWepKey (property : Property) (slot : Fin 4) (profile : Profile)
    (text : String) : BlamesText (settingWepKey property slot profile text) := by
  unfold settingWepKey
  simp only
  refine .bind (blamesText_guessKeyType _ text) fun _ => ?_
  simp

theorem blamesText_addDnsOptions (held : DnsOptions) (text : String) :
    BlamesText (addDnsOptions held text) := by
  unfold addDnsOptions
  refine .bind (.mapM DnsOptions.blamesText_check _) fun _ => ?_
  simp

theorem blamesText_removeDnsOption (held : DnsOptions) (text : String) :
    BlamesText (removeDnsOption held text) := by
  unfold removeDnsOption
  split
  · simp
  · exact (DnsOptions.blamesText_check _).map _

theorem blamesText_readPartitionKey (text : String) : BlamesText (readPartitionKey text) := by
  unfold readPartitionKey
  simp only
  split
  · simp
  · exact blamesText_readWithin _ _ _ _

theorem blamesText_readChannel (text : String) : BlamesText (readChannel text) := by
  unfold readChannel
  refine .bind (blamesText_readWithin _ _ _ _) fun _ => ?_
  split <;> simp

theorem blamesText_networkName (text : String) : BlamesText (NetworkName.parse text) := by
  unfold NetworkName.parse
  split <;> simp

theorem blamesText_removing (property : Property) (profile : Profile) (text : String) :
    BlamesText (removing property profile text) := by
  unfold removing
  split
  · refine .bind (ListContract.blamesText_remove _ _ text) fun _ => ?_
    simp
  · refine .bind (OptionMap.blamesText_remove _ _ text) fun _ => ?_
    simp
  · refine .bind (blamesText_removeDnsOption _ text) fun _ => ?_
    simp
  · simp

theorem ofPlan_of_checkTypeFree {error : Error} (failed : checkTypeFree property profile = .error error) :
    error.OfPlan := by
  unfold checkTypeFree at failed
  split at failed
  · cases failed
    exact .immutable _
  · cases failed

/-- Every word for a type is known to the catalogue, so only the choice of the word can fail. -/
theorem ofPlan_of_settingType (standard : context.catalogue = .standard) {error : Error}
    (failed : settingType context property profile text = .error error) : error.OfPlan := by
  unfold settingType at failed
  cases unfixed : checkTypeFree property profile with
  | error early =>
    rw [unfixed] at failed
    cases failed
    exact ofPlan_of_checkTypeFree unfixed
  | ok nothing =>
    rw [unfixed] at failed
    cases chosen : choose context.catalogue.typeNames text with
    | error early =>
      rw [chosen] at failed
      cases failed
      exact .text ((blamesText_choose _ _).ofText _ chosen)
    | ok word =>
      rw [chosen] at failed
      have known := choose_mem chosen
      rw [standard] at known
      obtain ⟨setting, -, found⟩ := Catalogue.setting_of_typeName known
      rw [standard] at failed
      replace failed : (Catalogue.standard.setting word >>= _) = Except.error error := failed
      rw [found] at failed
      cases failed

theorem ofPlan_of_settingSpecial (standard : context.catalogue = .standard) {special : Special}
    {error : Error} (failed : settingSpecial context property special profile text = .error error) :
    error.OfPlan := by
  cases special with
  | connectionType => exact ofPlan_of_settingType standard failed
  | wepKey slot => exact .text ((blamesText_settingWepKey property slot profile text).ofText _ failed)
  | dnsOptions =>
    refine .text (BlamesText.ofText (.bind (blamesText_addDnsOptions _ text) fun _ => ?_) _ failed)
    simp
  | partitionKey =>
    refine .text (BlamesText.ofText (.bind (blamesText_readPartitionKey text) fun _ => ?_) _ failed)
    simp
  | wifiChannel =>
    refine .text (BlamesText.ofText (.bind (blamesText_readChannel text) fun _ => ?_) _ failed)
    simp
  | networkName =>
    refine .text (BlamesText.ofText (.bind (blamesText_networkName text) fun _ => ?_) _ failed)
    simp

theorem ofPlan_of_setting (standard : context.catalogue = .standard) (sound : property.contract.Sound)
    {error : Error} (failed : setting context property profile text = .error error) : error.OfPlan := by
  unfold setting at failed
  split at failed
  · next scalar contract =>
    rw [contract] at sound
    exact .text ((blamesText_settingScalar _ sound _ _).ofText _ failed)
  · refine .text (BlamesText.ofText (.bind (ListContract.blamesText_add _ _ text) fun _ => ?_) _ failed)
    simp
  · refine .text (BlamesText.ofText (.bind (OptionMap.blamesText_add _ _ text) fun _ => ?_) _ failed)
    simp
  · exact ofPlan_of_settingSpecial standard failed

theorem ofPlan_of_resetting {error : Error} (failed : resetting property profile = .error error) :
    error.OfPlan := by
  unfold resetting at failed
  split at failed
  · cases unfixed : checkTypeFree property profile with
    | error early =>
      rw [unfixed] at failed
      cases failed
      exact ofPlan_of_checkTypeFree unfixed
    | ok nothing =>
      rw [unfixed] at failed
      cases failed
  · cases failed

end Plan

theorem Operation.ofPlan_of_error {operation : Operation} {profile : Profile} {error : Error}
    (failed : operation.plan profile = .error error) : error.OfPlan := by
  unfold Operation.plan at failed
  split at failed
  · cases failed
  · split at failed
    · cases failed
      exact .immutable _
    · exact Plan.ofPlan_of_resetting failed
  · next context standard _ text =>
    split at failed
    · cases failed
      exact .immutable _
    · exact Plan.ofPlan_of_setting standard (Catalogue.regular_of_mem operation.registered).sound failed
  · exact .text ((Plan.blamesText_removing _ _ _).ofText _ failed)

end NetProfile
