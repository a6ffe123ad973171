import Reckoner.Text.Pieces

/-!
Modules besides those of the package that pages are made about. A plain module holds no other
modules; a package does.

* §1 `plainModules` — plain modules that stand alone.
* §2 `packages` — packages, with the modules in them.
* §3 `ModuleKind` and `outsideKind?` — what a full name stands for.
-/

namespace Reckoner.Documentation

/-! ## §1 Plain modules -/

/-- The names in some lines, with a space between them. -/
def namesIn (lines : List String) : List String :=
  lines.flatMap fun line => (Text.pieces ' ' line.toList).map String.ofList

/-- The plain modules that stand alone. -/
def plainModules : List String :=
  namesIn
    ["abc aifc argparse array ast asynchat asyncore atexit audioop base64 bdb binascii bisect",
     "builtins bz2 cProfile calendar cgi cgitb chunk cmath cmd code codecs codeop colorsys",
     "compileall configparser contextlib contextvars copy copyreg crypt csv dataclasses datetime",
     "decimal difflib dis doctest enum errno faulthandler fcntl filecmp fileinput fnmatch",
     "fractions ftplib functools gc genericpath getopt getpass gettext glob graphlib grp gzip",
     "hashlib heapq hmac imaplib imghdr imp inspect io ipaddress itertools keyword linecache",
     "locale lzma mailbox mailcap marshal math mimetypes mmap modulefinder netrc nntplib ntpath",
     "nturl2path numbers opcode operator optparse os ossaudiodev pathlib pdb pickle pickletools",
     "pipes pkgutil platform plistlib poplib posix posixpath pprint profile pstats pty pwd",
     "py_compile pyclbr pydoc pyexpat queue quopri random readline reprlib resource rlcompleter",
     "runpy sched secrets select selectors shelve shlex shutil signal site smtpd smtplib sndhdr",
     "socket socketserver spwd sre_compile sre_constants sre_parse ssl stat statistics string",
     "stringprep struct subprocess sunau symtable sys sysconfig syslog tabnanny tarfile",
     "telnetlib tempfile termios textwrap threading time timeit token tokenize trace traceback",
     "tracemalloc tty typemaths types typing unicodedata uu uuid warnings wave weakref",
     "webbrowser xdrlib zipapp zipfile zipimport zlib"]

/-! ## §2 Packages -/

/-- The packages, with the plain modules in them. -/
def packages : List (String × List String) :=
  [("asyncio", namesIn
    ["base_events base_futures base_subprocess base_tasks constants coroutines events exceptions",
     "format_helpers futures locks log mixins proactor_events protocols queues runners",
     "selector_events sslproto staggered streams subprocess taskgroups tasks threads timeouts",
     "transports trsock unix_events"]),
   ("collections", namesIn ["abc"]),
   ("concurrent", []),
   ("ctypes", namesIn ["util wintypes"]),
   ("email", namesIn
    ["base64mime charset contentmanager encoders errors feedparser generator header",
     "headerregistry iterators message parser policy quoprimime utils"]),
   ("html", namesIn ["entities parser"]),
   ("http", namesIn ["client cookiejar cookies server"]),
   ("importlib", namesIn ["abc machinery readers simple util"]),
   ("json", namesIn ["decoder encoder scanner tool"]),
   ("logging", namesIn ["config handlers"]),
   ("multiprocessing", namesIn
    ["connection context forkserver heap managers pool popen_fork popen_forkserver",
     "popen_spawn_posix process queues reduction resource_sharer resource_tracker shared_memory",
     "sharedctypes spawn synchronize util"]),
   ("re", []),
   ("sqlite3", namesIn ["dbapi2 dump"]),
   ("tomllib", []),
   ("unittest", namesIn ["async_case case loader main mock result runner signals suite util"]),
   ("urllib", namesIn ["error parse request response robotparser"]),
   ("venv", []),
   ("wsgiref", namesIn ["handlers headers simple_server types util validate"]),
   ("xml", []),
   ("xmlrpc", namesIn ["client server"]),
   ("zoneinfo", [])]

/-- The packages inside of packages. -/
def innerPackages : List String :=
  namesIn
    ["concurrent.futures ctypes.macholib email.mime importlib.metadata importlib.resources",
     "multiprocessing.dummy xml.dom xml.etree xml.parsers xml.sax"]

/-- The modules that have another name of their own. -/
def ownNames : List (String × String) :=
  [("os.path", "posixpath")]

/-! ## §3 Kinds -/

/-- What a module is. -/
inductive ModuleKind where
  | plain
  | package
  deriving DecidableEq, Repr

/-- What stands under a full name outside of the package. -/
def outsideKind? (name : String) : Option ModuleKind :=
  if plainModules.contains name || ownNames.any (·.1 == name) then some .plain
  else if packages.any (·.1 == name) || innerPackages.contains name then some .package
  else if packages.any fun p => p.2.any fun part => p.1 ++ "." ++ part == name then some .plain
  else none

end Reckoner.Documentation
