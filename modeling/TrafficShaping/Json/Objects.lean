import TrafficShaping.Class
import TrafficShaping.Json

/-!
How qdiscs and classes are declared.

Each kind of qdisc is a record of its settings and, under `attrs`, of all that does not depend on
the kind. The kinds of classes are declared in the same way. Handles and probabilities are the words
that carry them.
-/

namespace TrafficShaping

open Json (Declaration Enumeration)

def Handle.declaration : Declaration Handle := .transparent .uint32 Handle.mk raw fun _ => rfl

def Probability.declaration : Declaration Probability :=
  .transparent .uint32 Probability.mk raw fun _ => rfl

/-! ## Statistics -/

def Traffic.declaration : Declaration Traffic :=
  .record (.required "bytes" .uint64 <| .required "packets" .uint64 .nil)
    (fun (bytes, packets, _) => ⟨bytes, packets⟩)
    (fun traffic => (traffic.bytes, traffic.packets, ()))
    fun _ => rfl

def QueueUse.declaration : Declaration QueueUse :=
  .record
    (.required "qlen" .uint32 <| .required "backlog" .uint32 <| .required "drops" .uint32 <|
      .required "requeues" .uint32 <| .required "overlimits" .uint32 .nil)
    (fun (length, backlog, drops, requeues, overlimits, _) =>
      ⟨length, backlog, drops, requeues, overlimits⟩)
    (fun queue =>
      (queue.length, queue.backlog, queue.drops, queue.requeues, queue.overlimits, ()))
    fun _ => rfl

def RateEstimate.declaration : Declaration RateEstimate :=
  .record (.required "bps" .uint64 <| .required "pps" .uint64 .nil)
    (fun (bytes, packets, _) => ⟨bytes, packets⟩)
    (fun rate => (rate.bytes, rate.packets, ()))
    fun _ => rfl

def Statistics.declaration : Declaration Statistics :=
  .record
    (.required "basic" Traffic.declaration <| .required "queue" QueueUse.declaration <|
      .required "rate_est" RateEstimate.declaration <|
      .required "basic_hw" Traffic.declaration .nil)
    (fun (traffic, queue, rate, hardware, _) => ⟨traffic, queue, rate, hardware⟩)
    (fun statistics =>
      (statistics.traffic, statistics.queue, statistics.rate, statistics.hardware, ()))
    fun _ => rfl

/-- Anything with options that are not looked into, beside attributes that are declared. -/
def Json.Declaration.generic {α : Type} (attributes : Declaration α) :
    Declaration (α × String × Option Bytes) :=
  .record
    (.required "attrs" attributes <| .required "kind" .text <|
      .optional "options" (.list .uint8) .nil)
    (fun (attributes, name, options, _) => (attributes, name, options))
    (fun (attributes, name, options) => (attributes, name, options, ()))
    fun _ => rfl

/-! ## Qdiscs -/

/-- All of a qdisc that does not depend on its kind. -/
structure QdiscAttributes where
  place : Placement
  /-- How often the kernel uses it, when the kernel reports it. -/
  references : Option UInt32
  /-- What the kernel counted. -/
  statistics : Statistics
  deriving DecidableEq, Repr

/-- All of a qdisc that does not depend on its kind. -/
def Qdisc.attributes (qdisc : Qdisc) : QdiscAttributes :=
  ⟨qdisc.place, qdisc.references, qdisc.statistics⟩

/-- The qdisc with settings of some kind. -/
def QdiscAttributes.withSettings (attributes : QdiscAttributes) (settings : QdiscSettings) :
    Qdisc :=
  ⟨attributes.place, attributes.references, attributes.statistics, settings⟩

def QdiscAttributes.declaration : Declaration QdiscAttributes :=
  .record
    (.required "link_index" .uint32 <| .required "handle" Handle.declaration <|
      .required "parent" Handle.declaration <| .optional "refcnt" .uint32 <|
      .required "statistics" Statistics.declaration .nil)
    (fun (link, handle, parent, references, statistics, _) =>
      ⟨⟨link, handle, parent⟩, references, statistics⟩)
    (fun attributes =>
      (attributes.place.link, attributes.place.handle, attributes.place.parent,
        attributes.references, attributes.statistics, ()))
    fun _ => rfl

namespace Qdisc

def htbDeclaration : Declaration (QdiscAttributes × HtbQdisc) :=
  .record
    (.required "attrs" QdiscAttributes.declaration <| .required "version" .uint32 <|
      .required "rate2quantum" .uint32 <| .required "defcls" .uint32 <|
      .required "debug" .uint32 <| .required "direct_pkts" .uint32 <|
      .optional "direct_qlen" .uint32 .nil)
    (fun (attributes, version, rateToQuantum, defaultClass, debug, directPackets,
        directQueueLength, _) =>
      (attributes, ⟨⟨version, rateToQuantum, defaultClass, debug, directPackets⟩,
        directQueueLength⟩))
    (fun (attributes, parameters) =>
      (attributes, parameters.globals.version, parameters.globals.rateToQuantum,
        parameters.globals.defaultClass, parameters.globals.debug,
        parameters.globals.directPackets, parameters.directQueueLength, ()))
    fun _ => rfl

def netemDeclaration : Declaration (QdiscAttributes × Netem) :=
  .record
    (.required "attrs" QdiscAttributes.declaration <| .required "latency" .uint32 <|
      .required "jitter" .uint32 <| .required "limit" .uint32 <| .required "gap" .uint32 <|
      .required "loss" Probability.declaration <|
      .required "loss_corr" Probability.declaration <|
      .required "duplicate" Probability.declaration <|
      .required "duplicate_corr" Probability.declaration <|
      .required "delay_corr" Probability.declaration <|
      .required "reorder_prob" Probability.declaration <|
      .required "reorder_corr" Probability.declaration <|
      .required "corrupt_prob" Probability.declaration <|
      .required "corrupt_corr" Probability.declaration <| .optional "rate" .uint64 .nil)
    (fun (attributes, latency, jitter, limit, gap, loss, lossCorrelation, duplicate,
        duplicateCorrelation, delayCorrelation, reorder, reorderCorrelation, corrupt,
        corruptCorrelation, rate, _) =>
      (attributes,
        { latency, jitter, limit, gap, loss, lossCorrelation, duplicate, duplicateCorrelation,
          delayCorrelation, reorder, reorderCorrelation, corrupt, corruptCorrelation, rate }))
    (fun (attributes, settings) =>
      (attributes, settings.latency, settings.jitter, settings.limit, settings.gap, settings.loss,
        settings.lossCorrelation, settings.duplicate, settings.duplicateCorrelation,
        settings.delayCorrelation, settings.reorder, settings.reorderCorrelation,
        settings.corrupt, settings.corruptCorrelation, settings.rate, ()))
    fun _ => rfl

def hfscDeclaration : Declaration (QdiscAttributes × HfscQdisc) :=
  .record (.required "attrs" QdiscAttributes.declaration <| .required "defcls" .uint16 .nil)
    (fun (attributes, defaultClass, _) => (attributes, ⟨defaultClass⟩))
    (fun (attributes, parameters) => (attributes, parameters.defaultClass, ()))
    fun _ => rfl

def pfifoFastDeclaration : Declaration (QdiscAttributes × PfifoFast) :=
  .record
    (.required "attrs" QdiscAttributes.declaration <| .required "bands" .int32 <|
      .required "priomap" (.array 16 .uint8) .nil)
    (fun (attributes, bands, bandOfPriority, _) => (attributes, ⟨bands, bandOfPriority⟩))
    (fun (attributes, bands) => (attributes, bands.bands, bands.bandOfPriority, ()))
    fun _ => rfl

def ingressDeclaration : Declaration QdiscAttributes :=
  .record (.required "attrs" QdiscAttributes.declaration .nil)
    (fun (attributes, _) => attributes) (fun attributes => (attributes, ())) fun _ => rfl

def enumeration : Enumeration Qdisc where
  variants :=
    .cons "Htb" htbDeclaration <| .cons "Netem" netemDeclaration <| .cons "Hfsc" hfscDeclaration <|
      .cons "PfifoFast" pfifoFastDeclaration <| .cons "Ingress" ingressDeclaration <|
      .cons "Generic" (.generic QdiscAttributes.declaration) .nil
  build
    | .inl (attributes, parameters) => attributes.withSettings (.htb parameters)
    | .inr (.inl (attributes, settings)) => attributes.withSettings (.netem settings)
    | .inr (.inr (.inl (attributes, parameters))) => attributes.withSettings (.hfsc parameters)
    | .inr (.inr (.inr (.inl (attributes, bands)))) => attributes.withSettings (.pfifoFast bands)
    | .inr (.inr (.inr (.inr (.inl attributes)))) => attributes.withSettings .ingress
    | .inr (.inr (.inr (.inr (.inr (.inl (attributes, name, options)))))) =>
      attributes.withSettings (.generic name options)
  part qdisc :=
    match qdisc.settings with
    | .htb parameters => .inl (qdisc.attributes, parameters)
    | .netem settings => .inr (.inl (qdisc.attributes, settings))
    | .hfsc parameters => .inr (.inr (.inl (qdisc.attributes, parameters)))
    | .pfifoFast bands => .inr (.inr (.inr (.inl (qdisc.attributes, bands))))
    | .ingress => .inr (.inr (.inr (.inr (.inl qdisc.attributes))))
    | .generic name options =>
      .inr (.inr (.inr (.inr (.inr (.inl (qdisc.attributes, name, options))))))
  build_part := by
    rintro ⟨place, references, statistics, settings⟩
    cases settings <;> rfl

end Qdisc

/-! ## Classes -/

/-- All of a class that does not depend on its kind. -/
structure ClassAttributes where
  place : Placement
  /-- What the kernel counted. -/
  statistics : Statistics
  deriving DecidableEq, Repr

/-- All of a class that does not depend on its kind. -/
def Class.attributes (tclass : Class) : ClassAttributes := ⟨tclass.place, tclass.statistics⟩

/-- The class with settings of some kind. -/
def ClassAttributes.withSettings (attributes : ClassAttributes) (settings : ClassSettings) :
    Class :=
  ⟨attributes.place, attributes.statistics, settings⟩

def ClassAttributes.declaration : Declaration ClassAttributes :=
  .record
    (.required "link_index" .uint32 <| .required "parent" Handle.declaration <|
      .required "handle" Handle.declaration <|
      .required "statistics" Statistics.declaration .nil)
    (fun (link, parent, handle, statistics, _) => ⟨⟨link, handle, parent⟩, statistics⟩)
    (fun attributes =>
      (attributes.place.link, attributes.place.parent, attributes.place.handle,
        attributes.statistics, ()))
    fun _ => rfl

def ServiceCurve.declaration : Declaration ServiceCurve :=
  .record (.required "m1" .uint32 <| .required "d" .uint32 <| .required "m2" .uint32 .nil)
    (fun (firstSlope, duration, secondSlope, _) => ⟨firstSlope, duration, secondSlope⟩)
    (fun curve => (curve.firstSlope, curve.duration, curve.secondSlope, ()))
    fun _ => rfl

namespace Class

def htbDeclaration : Declaration (ClassAttributes × HtbClass) :=
  .record
    (.required "attrs" ClassAttributes.declaration <| .required "rate" .uint64 <|
      .required "ceil" .uint64 <| .required "buffer" .uint32 <| .required "cbuffer" .uint32 <|
      .required "quantum" .uint32 <| .required "level" .uint32 <|
      .required "prio" .uint32 .nil)
    (fun (attributes, rate, ceiling, buffer, ceilingBuffer, quantum, level, priority, _) =>
      (attributes, { rate, ceiling, buffer, ceilingBuffer, quantum, level, priority }))
    (fun (attributes, parameters) =>
      (attributes, parameters.rate, parameters.ceiling, parameters.buffer,
        parameters.ceilingBuffer, parameters.quantum, parameters.level, parameters.priority, ()))
    fun _ => rfl

def hfscDeclaration : Declaration (ClassAttributes × HfscClass) :=
  .record
    (.required "attrs" ClassAttributes.declaration <|
      .required "rsc" ServiceCurve.declaration <| .required "fsc" ServiceCurve.declaration <|
      .required "usc" ServiceCurve.declaration .nil)
    (fun (attributes, realTime, linkShare, upperLimit, _) =>
      (attributes, ⟨realTime, linkShare, upperLimit⟩))
    (fun (attributes, curves) =>
      (attributes, curves.realTime, curves.linkShare, curves.upperLimit, ()))
    fun _ => rfl

def enumeration : Enumeration Class where
  variants :=
    .cons "Htb" htbDeclaration <| .cons "Hfsc" hfscDeclaration <|
      .cons "Generic" (.generic ClassAttributes.declaration) .nil
  build
    | .inl (attributes, parameters) => attributes.withSettings (.htb parameters)
    | .inr (.inl (attributes, curves)) => attributes.withSettings (.hfsc curves)
    | .inr (.inr (.inl (attributes, name, options))) =>
      attributes.withSettings (.generic name options)
  part tclass :=
    match tclass.settings with
    | .htb parameters => .inl (tclass.attributes, parameters)
    | .hfsc curves => .inr (.inl (tclass.attributes, curves))
    | .generic name options => .inr (.inr (.inl (tclass.attributes, name, options)))
  build_part := by
    rintro ⟨place, statistics, settings⟩
    cases settings <;> rfl

end Class

end TrafficShaping
