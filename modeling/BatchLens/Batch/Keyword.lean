import BatchLens.Text.Basic

/-!
# Keywords

The commands and words of the batch language that are known by name, each with a one-line
description. Names are in lower case and unique; look-up ignores the case of ASCII letters.
-/

namespace BatchLens

/-- A word of the batch language and what it is for. -/
structure Keyword where
  name : Text
  description : Text
  deriving DecidableEq, Repr

namespace Keyword

/-- An entry of the table. -/
def entry (name description : String) : Keyword :=
  ⟨name.toList, description.toList⟩

/-- The known keywords, in alphabetical order. -/
def table : List Keyword :=
  [
    entry "call" "Calls one batch program from another.",
    entry "comp" "Compares the contents of two files or sets of files.",
    entry "compact" "Displays or alters the compression of files on NTFS partitions.",
    entry "convert" "Converts FAT volumes to NTFS.  You cannot convert the current drive.",
    entry "copy" "Copies one or more files to another location.",
    entry "date" "Displays or sets the date.",
    entry "define" "Define.",
    entry "del" "Deletes one or more files.",
    entry "dir" "Displays a list of files and subdirectories in a directory.",
    entry "diskcomp" "Compares the contents of two floppy disks.",
    entry "diskcopy" "Copies the contents of one floppy disk to another.",
    entry "diskpart" "Displays or configures Disk Partition properties.",
    entry "do" "Used with for to name the command run for each item.",
    entry "doskey" "Edits command lines, recalls Windows commands, and creates macros.",
    entry "driverquery" "Displays current device driver status and properties.",
    entry "echo" "Displays messages, or turns command echoing on or off.",
    entry "endlocal" "Ends localization of environment changes in a batch file.",
    entry "erase" "Deletes one or more files.",
    entry "exist" "Used with if to test whether a file or folder exists.",
    entry "exit" "Quits the CMD.EXE program (command interpreter).",
    entry "fc" "Compares two files or sets of files, and displays the differences between them.",
    entry "find" "Searches for a text string in a file or files.",
    entry "findstr" "Searches for strings in files.",
    entry "for" "Runs a specified command for each file in a set of files.",
    entry "format" "Formats a disk for use with Windows.",
    entry "fsutil" "Displays or configures the file system properties.",
    entry "ftype" "Displays or modifies file types used in file extension associations.",
    entry "goto" "Directs the Windows command interpreter to a labeled line in a batch program.",
    entry "gpresult" "Displays Group Policy information for machine or user.",
    entry "graftabl" "Enables Windows to display an extended character set in graphics mode.",
    entry "help" "Provides Help information for Windows commands.",
    entry "icacls" "Display, modify, backup, or restore ACLs for files and directories.",
    entry "if" "Performs conditional processing in batch programs.",
    entry "in" "Used with for to list the set of items to iterate.",
    entry "label" "Creates, changes, or deletes the volume label of a disk.",
    entry "md" "Creates a directory.",
    entry "mkdir" "Creates a directory.",
    entry "mklink" "Creates Symbolic Links and Hard Links",
    entry "mode" "Configures a system device.",
    entry "more" "Displays output one screen at a time.",
    entry "move" "Moves one or more files from one directory to another directory.",
    entry "net" "Manages network resources, users, services and shares.",
    entry "not" "Used with if to negate the condition.",
    entry "nul" "The null device; output redirected to it is discarded.",
    entry "openfiles" "Displays files opened by remote users for a file share.",
    entry "path" "Displays or sets a search path for executable files.",
    entry "pause" "Suspends processing of a batch file and displays a message.",
    entry "popd" "Restores the previous value of the current directory saved by PUSHD.",
    entry "print" "Prints a text file.",
    entry "prompt" "Changes the Windows command prompt.",
    entry "pushd" "Saves the current directory then changes it.",
    entry "rd" "Removes a directory.",
    entry "recover" "Recovers readable information from a bad or defective disk.",
    entry "rem" "Records comments (remarks) in batch files or CONFIG.SYS.",
    entry "ren" "Renames a file or files.",
    entry "rename" "Renames a file or files.",
    entry "replace" "Replaces files.",
    entry "rmdir" "Removes a directory.",
    entry "robocopy" "Advanced utility to copy files and directory trees.",
    entry "sc" "Displays or configures services (background processes).",
    entry "schtasks" "Schedules commands and programs to run on a computer.",
    entry "set" "Displays, sets, or removes Windows environment variables.",
    entry "setlocal" "Begins localization of environment changes in a batch file.",
    entry "shift" "Shifts the position of replaceable parameters in batch files.",
    entry "shutdown" "Allows proper local or remote shutdown of machine.",
    entry "sort" "Sorts input.",
    entry "start" "Starts a separate window to run a specified program or command.",
    entry "subst" "Associates a path with a drive letter.",
    entry "systeminfo" "Displays machine specific properties and configuration.",
    entry "taskkill" "Kill or stop a running process or application.",
    entry "tasklist" "Displays all currently running tasks including services.",
    entry "time" "Displays or sets the system time.",
    entry "title" "Sets the window title for a CMD.EXE session.",
    entry "tree" "Graphically displays the directory structure of a drive or path.",
    entry "type" "Displays the contents of a text file.",
    entry "ver" "Displays the Windows version.",
    entry "verify"
      "Tells Windows whether to verify that your files are written correctly to a disk.",
    entry "vol" "Displays a disk volume label and serial number.",
    entry "wmic" "Displays WMI information inside interactive command shell.",
    entry "xcopy" "Copies files and directory trees."
  ]

/-- The names of the known keywords, in table order. -/
def names : List Text := table.map (·.name)

/-- The keyword of that name, whatever the case of its ASCII letters. -/
def find? (name : Text) : Option Keyword :=
  table.find? fun keyword => keyword.name == Text.asciiLower name

/-- What the keyword of that name is for, if there is one. -/
def describe? (name : Text) : Option Text :=
  (find? name).map (·.description)

/-- Whether there is a keyword of that name. -/
def isKeyword (name : Text) : Bool := (find? name).isSome

end Keyword

end BatchLens
