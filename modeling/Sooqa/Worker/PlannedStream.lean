import Sooqa.Worker.Normalization

/-!
The stream that a normalization works on. Every lookup takes the first video
stream, cover art or not.
-/
namespace Sooqa.Worker
open Foundation Queue Media Envelope

section Selection

/-- The options of the commands that stand without a value. -/
def switches : List String := ["-hide_banner", "-nostdin", "-y", "-an"]

/-- The values of the `-map` options. -/
def mapArguments : List String → List String
  | option :: value :: rest =>
    if option ∈ switches then mapArguments (value :: rest)
    else if option = "-map" then value :: mapArguments rest
    else mapArguments rest
  | _ => []

/-- The stream that a specifier of the commands stands for. -/
def specified (probe : MediaProbe) (specifier : String) : Option MediaStream :=
  if specifier = "0:v:0" then probe.streams.find? (·.kind == .video)
  else if specifier = "0:a:0?" then probe.streams.find? (·.kind == .audio)
  else none

/-- The video that a command takes in. -/
def mappedVideo (probe : MediaProbe) (command : ExternalCommand) : Option MediaStream :=
  ((mapArguments command.args).filterMap (specified probe)).find? (·.kind == .video)

/-- The commands of the plans that are made for a probe. -/
inductive Issued (planner : NormalizationPlanner) (probe : MediaProbe) :
    ExternalCommand → Prop where
  | plan {input output : String} {plan : NormalizationPlan}
      (planned : planner.plan input output probe = .ok plan) : Issued planner probe plan.command
  | qualityCandidate {input output : String} {dimensions : VideoDimensions}
      {plan : NormalizationPlan}
      (planned : planner.planQualityCandidate input output probe dimensions = .ok plan) :
      Issued planner probe plan.command
  | firstPass {input output passlogPrefix : String} {dimensions : VideoDimensions}
      {videoBitrateKbps : UInt64} {plan : TwoPassNormalizationPlan}
      (planned : planner.planTwoPass input output probe dimensions videoBitrateKbps passlogPrefix =
        .ok plan) : Issued planner probe plan.firstPass
  | secondPass {input output passlogPrefix : String} {dimensions : VideoDimensions}
      {videoBitrateKbps : UInt64} {plan : TwoPassNormalizationPlan}
      (planned : planner.planTwoPass input output probe dimensions videoBitrateKbps passlogPrefix =
        .ok plan) : Issued planner probe plan.secondPass.command

/-- Planning, execution and the commands all go by one stream. -/
structure WorksOn (planner : NormalizationPlanner) (probe : MediaProbe) (stream : MediaStream) :
    Prop where
  plan : ∀ input output, planner.plan input output probe = planner.planOf stream input output probe
  planQualityCandidate : ∀ input output dimensions,
    planner.planQualityCandidate input output probe dimensions =
      planner.planQualityCandidateOf stream input output dimensions
  planTwoPass : ∀ input output dimensions videoBitrateKbps passlogPrefix,
    planner.planTwoPass input output probe dimensions videoBitrateKbps passlogPrefix =
      planner.planTwoPassOf stream input output dimensions videoBitrateKbps passlogPrefix
  twoPassCandidate : planner.twoPassCandidate probe = planner.twoPassCandidateOf stream probe
  lookedUp : executionStream probe = some stream
  specified : specified probe "0:v:0" = some stream
  commands : ∀ command, Issued planner probe command → mappedVideo probe command = some stream

end Selection

section Options

/-- Options that map nothing. -/
def MapsNothing (options : List String) : Prop :=
  ∀ rest, mapArguments (options ++ rest) = mapArguments rest

theorem mapsNothing_nil : MapsNothing [] := fun _ => rfl

theorem mapsNothing_one {option : String} (valued : option ∉ switches) (other : option ≠ "-map")
    (value : String) : MapsNothing [option, value] := by
  intro rest
  rw [List.cons_append, List.cons_append, List.nil_append, mapArguments, if_neg valued,
    if_neg other]

variable (planner : NormalizationPlanner)

theorem outputOptions_mapNothing : MapsNothing planner.outputOptions := by
  intro rest
  unfold NormalizationPlanner.outputOptions
  rw [List.append_assoc]
  split <;> split <;> simp [mapArguments, switches]

theorem frameRateOptions_mapNothing (video : MediaStream) :
    MapsNothing (planner.frameRateOptions video) := by
  unfold NormalizationPlanner.frameRateOptions
  split
  · exact mapsNothing_one (by decide) (by decide) _
  · exact mapsNothing_nil

end Options

section FirstStream
variable {planner : NormalizationPlanner} {probe : MediaProbe} {video : MediaStream}

theorem remuxCommand_maps (input output : String) :
    mapArguments (planner.remuxCommand input output).args = ["0:v:0", "0:a:0?"] := by
  have options := outputOptions_mapNothing planner [output]
  simp [NormalizationPlanner.remuxCommand, ExternalCommand.addArgs, baseCommand, mapArguments,
    switches, options]

theorem transcodeCommand_maps (input output : String) (dimensions : VideoDimensions) (crf : UInt8) :
    mapArguments (planner.transcodeCommand input output dimensions crf video).args =
      ["0:v:0", "0:a:0?"] := by
  have options := outputOptions_mapNothing planner [output]
  have capped := frameRateOptions_mapNothing planner video
  unfold MapsNothing at capped
  simp [NormalizationPlanner.transcodeCommand, ExternalCommand.addArgs, baseCommand, mapArguments,
    switches, options, capped]

theorem firstPass_maps (input output passlogPrefix : String) (dimensions : VideoDimensions)
    (videoBitrateKbps : UInt64) :
    mapArguments (planner.twoPassCommand input output dimensions videoBitrateKbps passlogPrefix 1
      video).args = ["0:v:0"] := by
  by_cases capped : requiresFrameRateCap video planner.profile.maxFrameRate = true <;>
    simp [NormalizationPlanner.twoPassCommand, NormalizationPlanner.frameRateOptions, capped,
      ExternalCommand.addArgs, baseCommand, mapArguments, switches]

theorem secondPass_maps (input output passlogPrefix : String) (dimensions : VideoDimensions)
    (videoBitrateKbps : UInt64) :
    mapArguments (planner.twoPassCommand input output dimensions videoBitrateKbps passlogPrefix 2
      video).args = ["0:v:0", "0:a:0?"] := by
  have options := outputOptions_mapNothing planner [output]
  have capped := frameRateOptions_mapNothing planner video
  unfold MapsNothing at capped
  simp [NormalizationPlanner.twoPassCommand, ExternalCommand.addArgs, baseCommand, mapArguments,
    switches, options, capped]

theorem planOf_maps {input output : String} {plan : NormalizationPlan}
    (planned : planner.planOf video input output probe = .ok plan) :
    mapArguments plan.command.args = ["0:v:0", "0:a:0?"] := by
  unfold NormalizationPlanner.planOf at planned
  split at planned
  · rw [← pure_ok.mp planned]
    exact remuxCommand_maps input output
  · obtain ⟨dimensions, _, transcoded⟩ := bind_ok.mp planned
    rw [← pure_ok.mp transcoded]
    exact transcodeCommand_maps input output dimensions _

theorem planQualityCandidateOf_maps {input output : String} {dimensions : VideoDimensions}
    {plan : NormalizationPlan}
    (planned : planner.planQualityCandidateOf video input output dimensions = .ok plan) :
    mapArguments plan.command.args = ["0:v:0", "0:a:0?"] := by
  obtain ⟨_, _, transcoded⟩ := bind_ok.mp planned
  rw [← pure_ok.mp transcoded]
  exact transcodeCommand_maps input output dimensions _

theorem planTwoPassOf_maps {input output passlogPrefix : String} {dimensions : VideoDimensions}
    {videoBitrateKbps : UInt64} {plan : TwoPassNormalizationPlan}
    (planned : planner.planTwoPassOf video input output dimensions videoBitrateKbps passlogPrefix =
      .ok plan) :
    mapArguments plan.firstPass.args = ["0:v:0"] ∧
      mapArguments plan.secondPass.command.args = ["0:v:0", "0:a:0?"] := by
  obtain ⟨_, _, checked⟩ := bind_ok.mp planned
  obtain ⟨_, _, passes⟩ := bind_ok.mp checked
  rw [← pure_ok.mp passes]
  exact ⟨firstPass_maps input "-" passlogPrefix dimensions videoBitrateKbps,
    secondPass_maps input output passlogPrefix dimensions videoBitrateKbps⟩

/-- Each command takes in the first video stream, and at most a sound with it. -/
theorem issued_maps {command : ExternalCommand} (issued : Issued planner probe command) :
    mapArguments command.args = ["0:v:0"] ∨ mapArguments command.args = ["0:v:0", "0:a:0?"] := by
  cases issued with
  | plan planned =>
    obtain ⟨video, _, planned⟩ := bind_ok.mp planned
    exact Or.inr (planOf_maps planned)
  | qualityCandidate planned =>
    obtain ⟨video, _, planned⟩ := bind_ok.mp planned
    exact Or.inr (planQualityCandidateOf_maps planned)
  | firstPass planned =>
    obtain ⟨video, _, planned⟩ := bind_ok.mp planned
    exact Or.inl (planTwoPassOf_maps planned).1
  | secondPass planned =>
    obtain ⟨video, _, planned⟩ := bind_ok.mp planned
    exact Or.inr (planTwoPassOf_maps planned).2

theorem issued_mapped {command : ExternalCommand} (issued : Issued planner probe command)
    (first : firstVideoStream probe = some video) : mappedVideo probe command = some video := by
  have here : specified probe "0:v:0" = some video := first
  rw [firstVideoStream] at first
  have kind := List.find?_some first
  unfold mappedVideo
  rcases issued_maps issued with maps | maps <;>
    simp only [maps, List.filterMap_cons_some here, List.find?_cons, kind]

/-- The first video stream is the one that everything works on. -/
theorem worksOn_first (first : firstVideoStream probe = some video) :
    WorksOn planner probe video where
  plan := fun _ _ => by rw [NormalizationPlanner.plan, first]; rfl
  planQualityCandidate := fun _ _ _ => by
    rw [NormalizationPlanner.planQualityCandidate, first]; rfl
  planTwoPass := fun _ _ _ _ _ => by rw [NormalizationPlanner.planTwoPass, first]; rfl
  twoPassCandidate := by rw [NormalizationPlanner.twoPassCandidate, first]; rfl
  lookedUp := first
  specified := first
  commands := fun _ issued => issued_mapped issued first

theorem worksOn_iff {stream : MediaStream} :
    WorksOn planner probe stream ↔ firstVideoStream probe = some stream :=
  ⟨fun works => works.lookedUp, worksOn_first⟩

end FirstStream

section CoverArt
variable {planner : NormalizationPlanner} {probe : MediaProbe}

/-- A video stream that is a still picture. -/
def isCoverArt (stream : MediaStream) : Bool := stream.kind == .video && stream.attachedPicture

theorem playable_iff {stream : MediaStream} :
    isPlayable stream = true ↔ stream.kind = .video ∧ stream.attachedPicture = false := by
  simp [isPlayable]

/-- A probe with the kind of a video has a video to play. -/
theorem playable_of_video (video : probeMediaKind probe = some .video) :
    ∃ stream ∈ probe.streams, isPlayable stream := by
  by_contra none
  push Not at none
  have still : probe.streams.filter isPlayable = [] := List.filter_eq_nil_iff.mpr none
  unfold probeMediaKind at video
  rw [still] at video
  simp only [List.isEmpty_nil, Bool.not_true, Bool.false_eq_true, if_false] at video
  repeat' split at video
  all_goals cases video

theorem firstVideoStream_of_playable {stream : MediaStream} (member : stream ∈ probe.streams)
    (playable : isPlayable stream) : ∃ first, firstVideoStream probe = some first := by
  rw [firstVideoStream, ← Option.isSome_iff_exists, List.find?_isSome]
  exact ⟨stream, member, by simpa using (playable_iff.mp playable).1⟩

/-- The planner works on the video to play exactly where no cover art stands in
    front of every video. -/
theorem planner_works_on_playable_stream (planner : NormalizationPlanner) (probe : MediaProbe)
    (video : probeMediaKind probe = some .video) :
    (∃ stream, WorksOn planner probe stream ∧ isPlayable stream) ↔
      ∀ before picture after, probe.streams = before ++ picture :: after → isCoverArt picture →
        ∃ stream ∈ before, isPlayable stream := by
  constructor
  · rintro ⟨stream, works, playable⟩ before picture after split art
    have first := worksOn_iff.mp works
    obtain ⟨kind, still⟩ := playable_iff.mp playable
    rw [firstVideoStream, split, List.find?_append] at first
    simp only [isCoverArt, Bool.and_eq_true] at art
    cases found : before.find? (·.kind == .video) with
    | some earlier =>
      rw [found] at first
      cases first
      exact ⟨stream, List.mem_of_find?_eq_some found, playable⟩
    | none =>
      simp only [found, Option.none_or, List.find?_cons, art.1, Option.some.injEq] at first
      rw [← first] at still
      rw [still] at art
      exact absurd art.2 Bool.false_ne_true
  · intro behind
    obtain ⟨played, member, playable⟩ := playable_of_video video
    obtain ⟨first, found⟩ := firstVideoStream_of_playable member playable
    refine ⟨first, worksOn_first found, ?_⟩
    rw [firstVideoStream, List.find?_eq_some_iff_append] at found
    obtain ⟨kind, before, after, split, others⟩ := found
    by_contra art
    have cover : isCoverArt first := by
      simpa [isCoverArt, isPlayable, kind] using art
    obtain ⟨stream, earlier, plays⟩ := behind before first after split cover
    have other := others stream earlier
    simp [(playable_iff.mp plays).1] at other

/-- A planner with the standard profile. -/
def standardPlanner : NormalizationPlanner := ⟨"ffmpeg", .default, default_valid⟩

def film : MediaStream where
  index := 0
  kind := .video
  codec := some "h264"
  attachedPicture := false
  codecTag := some "avc1"
  codecMime := none
  level := some 31
  profile := some "High"
  pixelFormat := some "yuv420p"
  width := some 1280
  height := some 720
  displayAspectRatio := none
  frameRate := some ⟨25, 1⟩
  rotationDegrees := none
  sampleRateHz := none
  channels := none
  bitRate := none

/-- The cover of a film, a still picture in a stream of its own. -/
def cover : MediaStream :=
  { film with
    codec := some "mjpeg"
    attachedPicture := true
    codecTag := none
    level := none
    profile := none
    pixelFormat := some "yuvj420p"
    width := some 600
    height := some 600 }

def filmWith (streams : List MediaStream) : MediaProbe where
  containerFormat := some "mov,mp4,m4a,3gp,3g2,mj2"
  durationMs := some 60000
  sizeBytes := 9000000
  bitRate := none
  streams := streams

theorem film_before_cover_is_planned : probeMediaKind (filmWith [film, cover]) = some .video ∧
    ∃ stream, WorksOn standardPlanner (filmWith [film, cover]) stream ∧ isPlayable stream := by
  have video : probeMediaKind (filmWith [film, cover]) = some .video := by decide +kernel
  refine ⟨video, (planner_works_on_playable_stream standardPlanner _ video).mpr ?_⟩
  intro before picture after split art
  cases before with
  | nil =>
    cases split
    exact absurd art (by decide)
  | cons first rest =>
    have same : film = first := (List.cons.inj split).1
    exact ⟨first, List.mem_cons_self, same ▸ by decide⟩

/-- With the cover in front, the still picture is what is planned for. -/
theorem cover_before_film_is_planned : ¬ ∀ (planner : NormalizationPlanner) (probe : MediaProbe),
    probeMediaKind probe = some .video →
      ∃ stream, WorksOn planner probe stream ∧ isPlayable stream := by
  intro claim
  obtain ⟨stream, works, playable⟩ :=
    claim standardPlanner (filmWith [cover, film]) (by decide +kernel)
  have planned : stream = cover := (Option.some.inj works.lookedUp).symm
  rw [planned] at playable
  exact absurd playable (by decide)

end CoverArt

end Sooqa.Worker
