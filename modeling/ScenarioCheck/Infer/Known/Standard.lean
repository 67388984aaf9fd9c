/-! The standard modules, as far as their classes are worth naming. A class derives only from what
its values are shown to be. -/
namespace ScenarioCheck.Infer.Known

def datetimeText : String :=
"class timedelta:
    def total_seconds(self): ''
class date:
    def __init__(self, year, month=None, day=None): pass
    @classmethod
    def today(cls): return cls(1, 1, 1)
    @classmethod
    def fromtimestamp(cls, t): return cls(1, 1, 1)
    @classmethod
    def fromisoformat(cls, text): return cls(1, 1, 1)
    def isoformat(self): return ''
class tzinfo: pass
class time: pass
class datetime(date):
    @classmethod
    def now(cls, tz=None): return cls(1, 1, 1)
    @classmethod
    def utcnow(cls): return cls(1, 1, 1)
    @classmethod
    def fromtimestamp(cls, timestamp, tz=None): return cls(1, 1, 1)
class timezone(tzinfo): pass"

def collectionsText : String :=
"class OrderedDict(dict): pass
class defaultdict(dict): pass
class Counter(dict): pass
class deque: pass
class ChainMap: pass
class UserDict: pass
class UserList: pass
class UserString: pass"

def uuidText : String :=
"class UUID: pass
def uuid1(node=None, clock_seq=None): return UUID()
def uuid3(namespace, name): return UUID()
def uuid4(): return UUID()
def uuid5(namespace, name): return UUID()"

def pathlibText : String :=
"class PurePath: pass
class PurePosixPath(PurePath): pass
class PureWindowsPath(PurePath): pass
class Path(PurePath): pass
class PosixPath(Path, PurePosixPath): pass
class WindowsPath(Path, PureWindowsPath): pass"

def standardTexts : List (String × Bool × String) :=
  [("datetime", false, datetimeText), ("collections", true, collectionsText),
   ("uuid", false, uuidText), ("pathlib", false, pathlibText),
   ("decimal", false, "class Decimal: pass\nclass Context: pass"),
   ("fractions", false, "class Fraction: pass"),
   ("types", false, "class SimpleNamespace: pass\nclass MappingProxyType: pass"),
   ("threading", false, "class Thread: pass\nclass Event: pass"),
   ("io", false, "class StringIO: pass\nclass BytesIO: pass")]
  ++ ["os", "sys", "re", "json", "math", "random", "time", "logging", "functools", "itertools",
      "operator", "string", "copy", "tempfile", "shutil", "subprocess", "asyncio", "enum", "abc",
      "inspect", "warnings", "contextlib", "unittest", "secrets", "hashlib", "base64", "csv",
      "argparse", "statistics", "textwrap", "traceback", "urllib", "socket", "struct"].map
    fun name => (name, ["json", "logging", "asyncio", "unittest", "urllib"].contains name, "")

end ScenarioCheck.Infer.Known
