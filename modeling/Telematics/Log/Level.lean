namespace Telematics.Log.Level

def critical : Int := 50
def error : Int := 40
def warning : Int := 30
def info : Int := 20
def debug : Int := 10
def unset : Int := 0

def names : List (String × Int) :=
  [("CRITICAL", critical), ("FATAL", critical), ("ERROR", error), ("WARN", warning),
    ("WARNING", warning), ("INFO", info), ("DEBUG", debug), ("NOTSET", unset)]

def ofName? (name : String) : Option Int :=
  names.lookup name

def name? (level : Int) : Option String :=
  if level = critical then some "CRITICAL"
  else if level = error then some "ERROR"
  else if level = warning then some "WARNING"
  else if level = info then some "INFO"
  else if level = debug then some "DEBUG"
  else if level = unset then some "NOTSET"
  else none

def shown (level : Int) : String :=
  (name? level).getD ("Level " ++ toString level)

end Telematics.Log.Level
