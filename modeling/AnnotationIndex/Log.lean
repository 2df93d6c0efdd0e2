/-!
# Log events
-/

namespace AnnotationIndex

inductive Level where
  | error | warn | info | debug | trace
  deriving DecidableEq, Repr

def Level.rank : Level → Nat
  | .error => 0
  | .warn => 1
  | .info => 2
  | .debug => 3
  | .trace => 4

inductive Area where
  | cache | extract | filter | introspect | pipeline | resolver | store
  deriving DecidableEq, Repr

def Area.target : Area → String
  | .cache => "annotation_collector::cache"
  | .extract => "annotation_collector::extract"
  | .filter => "annotation_collector::filter"
  | .introspect => "annotation_collector::introspect"
  | .pipeline => "annotation_collector::pipeline"
  | .resolver => "annotation_collector::resolver"
  | .store => "annotation_collector::store"

structure Event where
  level : Level
  area : Area
  message : String
  deriving DecidableEq, Repr

def Event.warn (area : Area) (message : String) : Event := ⟨.warn, area, message⟩

def Event.debug (area : Area) (message : String) : Event := ⟨.debug, area, message⟩

end AnnotationIndex
