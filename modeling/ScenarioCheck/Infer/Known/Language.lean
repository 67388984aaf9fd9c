/-! The modules that every program can import, as far as their names and results matter here. A
function whose body is a text alone has a result that is not known. -/
namespace ScenarioCheck.Infer.Known

def builtinsText : String :=
"class object: pass
class type(object):
    def __class_getitem__(cls, item): return cls
class int(object):
    def as_integer_ratio(self, *args): ''
    def bit_count(self, *args): ''
    def bit_length(self, *args): ''
    def conjugate(self, *args): ''
    def to_bytes(self, *args): ''
class bool(int): pass
class float(object):
    def as_integer_ratio(self, *args): ''
    def conjugate(self, *args): ''
    def hex(self, *args): ''
    def is_integer(self, *args): ''
class complex(object):
    def conjugate(self, *args): ''
class str(object):
    def join(self, *args, **kwargs): return ''
    def replace(self, *args, **kwargs): return ''
    def format(self, *args, **kwargs): return ''
    def capitalize(self, *args, **kwargs): return ''
    def title(self, *args, **kwargs): return ''
    def lower(self, *args, **kwargs): return ''
    def upper(self, *args, **kwargs): return ''
    def swapcase(self, *args, **kwargs): return ''
    def strip(self, *args, **kwargs): return ''
    def lstrip(self, *args, **kwargs): return ''
    def rstrip(self, *args, **kwargs): return ''
    def rjust(self, *args, **kwargs): return ''
    def center(self, *args, **kwargs): return ''
    def ljust(self, *args, **kwargs): return ''
    def decode(self, *args, **kwargs): return ''
    def encode(self, *args, **kwargs): return b''
    def index(self, *args, **kwargs): return 0
    def find(self, *args, **kwargs): return 0
    def count(self, *args, **kwargs): return 0
    def casefold(self, *args): ''
    def endswith(self, *args): ''
    def expandtabs(self, *args): ''
    def format_map(self, *args): ''
    def isalnum(self, *args): ''
    def isalpha(self, *args): ''
    def isascii(self, *args): ''
    def isdecimal(self, *args): ''
    def isdigit(self, *args): ''
    def isidentifier(self, *args): ''
    def islower(self, *args): ''
    def isnumeric(self, *args): ''
    def isprintable(self, *args): ''
    def isspace(self, *args): ''
    def istitle(self, *args): ''
    def isupper(self, *args): ''
    def maketrans(self, *args): ''
    def partition(self, *args): ''
    def removeprefix(self, *args): ''
    def removesuffix(self, *args): ''
    def rfind(self, *args): ''
    def rindex(self, *args): ''
    def rpartition(self, *args): ''
    def rsplit(self, *args): ''
    def split(self, *args): ''
    def splitlines(self, *args): ''
    def startswith(self, *args): ''
    def translate(self, *args): ''
    def zfill(self, *args): ''
class bytes(object):
    def join(self, *args, **kwargs): return b''
    def replace(self, *args, **kwargs): return b''
    def capitalize(self, *args, **kwargs): return b''
    def title(self, *args, **kwargs): return b''
    def lower(self, *args, **kwargs): return b''
    def upper(self, *args, **kwargs): return b''
    def swapcase(self, *args, **kwargs): return b''
    def strip(self, *args, **kwargs): return b''
    def lstrip(self, *args, **kwargs): return b''
    def rstrip(self, *args, **kwargs): return b''
    def rjust(self, *args, **kwargs): return b''
    def center(self, *args, **kwargs): return b''
    def ljust(self, *args, **kwargs): return b''
    def encode(self, *args, **kwargs): return b''
    def decode(self, *args, **kwargs): return ''
    def index(self, *args, **kwargs): return 0
    def find(self, *args, **kwargs): return 0
    def count(self, *args, **kwargs): return 0
    def endswith(self, *args): ''
    def expandtabs(self, *args): ''
    def fromhex(self, *args): ''
    def hex(self, *args): ''
    def isalnum(self, *args): ''
    def isalpha(self, *args): ''
    def isascii(self, *args): ''
    def isdigit(self, *args): ''
    def islower(self, *args): ''
    def isspace(self, *args): ''
    def istitle(self, *args): ''
    def isupper(self, *args): ''
    def maketrans(self, *args): ''
    def partition(self, *args): ''
    def removeprefix(self, *args): ''
    def removesuffix(self, *args): ''
    def rfind(self, *args): ''
    def rindex(self, *args): ''
    def rpartition(self, *args): ''
    def rsplit(self, *args): ''
    def split(self, *args): ''
    def splitlines(self, *args): ''
    def startswith(self, *args): ''
    def translate(self, *args): ''
    def zfill(self, *args): ''
class bytearray(object):
    def append(self, *args): ''
    def copy(self, *args): ''
    def extend(self, *args): ''
    def pop(self, *args): ''
class memoryview(object):
    def tobytes(self, *args): ''
    def tolist(self, *args): ''
class list(object):
    def __class_getitem__(cls, item): return cls
    def append(self, *args): ''
    def clear(self, *args): ''
    def copy(self, *args): ''
    def count(self, *args): ''
    def extend(self, *args): ''
    def index(self, *args): ''
    def insert(self, *args): ''
    def pop(self, *args): ''
    def remove(self, *args): ''
    def reverse(self, *args): ''
    def sort(self, *args): ''
class tuple(object):
    def __class_getitem__(cls, item): return cls
    def count(self, *args): ''
    def index(self, *args): ''
class dict(object):
    def items(self, *args, **kwargs): return []
    def keys(self, *args, **kwargs): return []
    def values(self, *args, **kwargs): return []
    def __class_getitem__(cls, item): return cls
    def clear(self, *args): ''
    def copy(self, *args): ''
    def fromkeys(self, *args): ''
    def get(self, *args): ''
    def pop(self, *args): ''
    def popitem(self, *args): ''
    def setdefault(self, *args): ''
    def update(self, *args): ''
class set(object):
    def __class_getitem__(cls, item): return cls
    def add(self, *args): ''
    def clear(self, *args): ''
    def copy(self, *args): ''
    def difference(self, *args): ''
    def discard(self, *args): ''
    def intersection(self, *args): ''
    def isdisjoint(self, *args): ''
    def issubset(self, *args): ''
    def issuperset(self, *args): ''
    def pop(self, *args): ''
    def remove(self, *args): ''
    def symmetric_difference(self, *args): ''
    def union(self, *args): ''
    def update(self, *args): ''
class frozenset(object):
    def __class_getitem__(cls, item): return cls
    def copy(self, *args): ''
    def difference(self, *args): ''
    def intersection(self, *args): ''
    def isdisjoint(self, *args): ''
    def issubset(self, *args): ''
    def issuperset(self, *args): ''
    def symmetric_difference(self, *args): ''
    def union(self, *args): ''
class enumerate(object): pass
class filter(object): pass
class map(object): pass
class range(object): pass
class reversed(object): pass
class slice(object): pass
class zip(object): pass
class super(object): pass
class property(object): pass
class classmethod(object): pass
class staticmethod(object): pass
class BaseException(object): pass
class BaseExceptionGroup(BaseException): pass
class Exception(BaseException): pass
class ExceptionGroup(BaseExceptionGroup, Exception): pass
class GeneratorExit(BaseException): pass
class KeyboardInterrupt(BaseException): pass
class SystemExit(BaseException): pass
class ArithmeticError(Exception): pass
class FloatingPointError(ArithmeticError): pass
class OverflowError(ArithmeticError): pass
class ZeroDivisionError(ArithmeticError): pass
class AssertionError(Exception): pass
class AttributeError(Exception): pass
class BufferError(Exception): pass
class EOFError(Exception): pass
class ImportError(Exception): pass
class ModuleNotFoundError(ImportError): pass
class LookupError(Exception): pass
class IndexError(LookupError): pass
class KeyError(LookupError): pass
class MemoryError(Exception): pass
class NameError(Exception): pass
class UnboundLocalError(NameError): pass
class OSError(Exception): pass
class BlockingIOError(OSError): pass
class ChildProcessError(OSError): pass
class ConnectionError(OSError): pass
class BrokenPipeError(ConnectionError): pass
class ConnectionAbortedError(ConnectionError): pass
class ConnectionRefusedError(ConnectionError): pass
class ConnectionResetError(ConnectionError): pass
class FileExistsError(OSError): pass
class FileNotFoundError(OSError): pass
class InterruptedError(OSError): pass
class IsADirectoryError(OSError): pass
class NotADirectoryError(OSError): pass
class PermissionError(OSError): pass
class ProcessLookupError(OSError): pass
class TimeoutError(OSError): pass
class ReferenceError(Exception): pass
class RuntimeError(Exception): pass
class NotImplementedError(RuntimeError): pass
class RecursionError(RuntimeError): pass
class StopAsyncIteration(Exception): pass
class StopIteration(Exception): pass
class SyntaxError(Exception): pass
class IndentationError(SyntaxError): pass
class TabError(IndentationError): pass
class SystemError(Exception): pass
class TypeError(Exception): pass
class ValueError(Exception): pass
class UnicodeError(ValueError): pass
class UnicodeDecodeError(UnicodeError): pass
class UnicodeEncodeError(UnicodeError): pass
class UnicodeTranslateError(UnicodeError): pass
class Warning(Exception): pass
class BytesWarning(Warning): pass
class DeprecationWarning(Warning): pass
class EncodingWarning(Warning): pass
class FutureWarning(Warning): pass
class ImportWarning(Warning): pass
class PendingDeprecationWarning(Warning): pass
class ResourceWarning(Warning): pass
class RuntimeWarning(Warning): pass
class SyntaxWarning(Warning): pass
class UnicodeWarning(Warning): pass
class UserWarning(Warning): pass
EnvironmentError = OSError
IOError = OSError
def abs(*args, **kwargs): ''
def aiter(*args, **kwargs): ''
def all(*args, **kwargs): ''
def anext(*args, **kwargs): ''
def any(*args, **kwargs): ''
def ascii(*args, **kwargs): ''
def bin(*args, **kwargs): ''
def breakpoint(*args, **kwargs): ''
def callable(*args, **kwargs): ''
def chr(*args, **kwargs): ''
def compile(*args, **kwargs): ''
def delattr(*args, **kwargs): ''
def dir(*args, **kwargs): ''
def divmod(*args, **kwargs): ''
def eval(*args, **kwargs): ''
def exec(*args, **kwargs): ''
def format(*args, **kwargs): ''
def getattr(*args, **kwargs): ''
def globals(*args, **kwargs): ''
def hasattr(*args, **kwargs): ''
def hash(*args, **kwargs): ''
def hex(*args, **kwargs): ''
def id(*args, **kwargs): ''
def input(*args, **kwargs): ''
def isinstance(*args, **kwargs): ''
def issubclass(*args, **kwargs): ''
def iter(*args, **kwargs): ''
def len(*args, **kwargs): ''
def locals(*args, **kwargs): ''
def max(*args, **kwargs): ''
def min(*args, **kwargs): ''
def next(*args, **kwargs): ''
def oct(*args, **kwargs): ''
def open(*args, **kwargs): ''
def ord(*args, **kwargs): ''
def pow(*args, **kwargs): ''
def print(*args, **kwargs): ''
def repr(*args, **kwargs): ''
def round(*args, **kwargs): ''
def setattr(*args, **kwargs): ''
def sorted(*args, **kwargs): ''
def sum(*args, **kwargs): ''
def vars(*args, **kwargs): ''
Ellipsis = ...
__debug__ = True"

/-- The names of annotations: special forms are functions, the others classes. -/
def typingText : String :=
"def Never(self, parameters): pass
def NoReturn(self, parameters): pass
def LiteralString(self, parameters): pass
def Self(self, parameters): pass
def ClassVar(self, parameters): pass
def Final(self, parameters): pass
def Union(self, parameters): pass
def Optional(self, parameters): pass
def Literal(self, parameters): pass
def TypeAlias(self, parameters): pass
def Concatenate(self, parameters): pass
def TypeGuard(self, parameters): pass
def Unpack(self, parameters): pass
def Required(self, parameters): pass
def NotRequired(self, parameters): pass
class _Alias:
    def __class_getitem__(cls, item): return cls
class Any: pass
class ForwardRef: pass
class ParamSpec: pass
class ParamSpecArgs: pass
class ParamSpecKwargs: pass
class TypeVar: pass
class TypeVarTuple: pass
class Generic(_Alias): pass
class Protocol(_Alias): pass
class Annotated(_Alias): pass
class NewType: pass
class SupportsAbs: pass
class SupportsBytes: pass
class SupportsComplex: pass
class SupportsFloat: pass
class SupportsIndex: pass
class SupportsInt: pass
class SupportsRound: pass
class IO: pass
class BinaryIO: pass
class TextIO: pass
class TypedDict: pass
class Callable(_Alias): pass
class Tuple(_Alias): pass
class Type(_Alias): pass
class AbstractSet(_Alias): pass
class ByteString(_Alias): pass
class Container(_Alias): pass
class ContextManager(_Alias): pass
class Hashable(_Alias): pass
class ItemsView(_Alias): pass
class Iterable(_Alias): pass
class Iterator(_Alias): pass
class KeysView(_Alias): pass
class Mapping(_Alias): pass
class MappingView(_Alias): pass
class MutableMapping(_Alias): pass
class MutableSequence(_Alias): pass
class MutableSet(_Alias): pass
class Sequence(_Alias): pass
class Sized(_Alias): pass
class ValuesView(_Alias): pass
class Awaitable(_Alias): pass
class AsyncIterator(_Alias): pass
class AsyncIterable(_Alias): pass
class Coroutine(_Alias): pass
class Collection(_Alias): pass
class AsyncGenerator(_Alias): pass
class AsyncContextManager(_Alias): pass
class Reversible(_Alias): pass
class ChainMap(_Alias): pass
class Counter(_Alias): pass
class Deque(_Alias): pass
class Dict(_Alias): pass
class DefaultDict(_Alias): pass
class List(_Alias): pass
class OrderedDict(_Alias): pass
class Set(_Alias): pass
class FrozenSet(_Alias): pass
class Generator(_Alias): pass
class Match(_Alias): pass
class Pattern(_Alias): pass
def assert_never(*args, **kwargs): ''
def assert_type(*args, **kwargs): ''
def clear_overloads(*args, **kwargs): ''
def dataclass_transform(*args, **kwargs): ''
def final(*args, **kwargs): ''
def get_args(*args, **kwargs): ''
def get_origin(*args, **kwargs): ''
def get_overloads(*args, **kwargs): ''
def get_type_hints(*args, **kwargs): ''
def is_typeddict(*args, **kwargs): ''
def no_type_check(*args, **kwargs): ''
def no_type_check_decorator(*args, **kwargs): ''
def overload(*args, **kwargs): ''
def reveal_type(*args, **kwargs): ''
def runtime_checkable(*args, **kwargs): ''
def NamedTuple(*args, **kwargs): ''
def cast(typ, val): return val
Text = str
AnyStr = TypeVar('AnyStr', bytes, str)
TYPE_CHECKING = False"

def dataclassesText : String :=
"def dataclass(cls=None, **options):
    def wrap(cls): ''
    if cls is None:
        return wrap
    return wrap(cls)
def field(**options): ''
def fields(instance): ''
def asdict(instance, **options): ''
def astuple(instance, **options): ''
def replace(instance, **changes): ''
def is_dataclass(instance): ''
def make_dataclass(name, members, **options): ''
class Field: pass
class FrozenInstanceError(AttributeError): pass
class InitVar: pass
class KW_ONLY: pass"

end ScenarioCheck.Infer.Known
